import ApiKeys.Proofs.Session.Contract
import ApiKeys.Proofs.Session.History
import ApiKeys.Proofs.Session.Renaming

/-!
# Identifiers and draws

A builder takes draws for one thing only, the identifier of a record that it is about to give. A
call takes a whole block of letters off the stream and gives a record with that identifier, or it
takes nothing; only a stream that ends within the block makes a call fail with the draws gone
(`Session.Drawing`). So the identifiers of the records that a run builds are the consecutive blocks
of the stream that it began with, however many requests are refused in between
(`Session.identifiers_from_stream`).
-/

namespace ApiKeys

/-- The command asks the builder for a record or for a change of one. -/
def Command.OfBuilder : Command → Prop
  | .create _ | .createDefault _ | .update .. => True
  | _ => False

namespace Session

/-- The letters that a session still has for identifiers. -/
def stream (s : Session) : List KeyId.Letter := s.supplies.draws.accepted

/-- The session with another source of draws. -/
def withDraws (s : Session) (draws : Draws) : Session :=
  { s with supplies := { s.supplies with draws } }

/-- The identifier of the record that a command builds, if it builds one. -/
def builtId? (s : Session) : Command → Option Text
  | .create body => (s.step (.create body)).session.records[s.records.length]?.map (·.key.id)
  | .createDefault which =>
    (s.step (.createDefault which)).session.records[s.records.length]?.map (·.key.id)
  | _ => none

/-- The identifiers of the records that some commands build, in order. -/
def builtIds (s : Session) : List Command → List Text
  | [] => []
  | c :: cs => (s.builtId? c).toList ++ (s.step c).session.builtIds cs

/-- What a call of the builder takes of the draws. -/
inductive Drawing (s : Session) (c : Command) : Prop
  /-- An update, or a call that is refused, takes nothing. -/
  | untouched : (s.step c).session.supplies.draws = s.supplies.draws → s.builtId? c = none →
      (c.Builds → ∃ e, e ≠ .drawsExhausted ∧ (s.step c).answer = .error e ∧
        (s.step c).session.records = s.records) → Drawing s c
  /-- A call that gives a record takes the next block of the stream, and no more. -/
  | block : c.Builds → KeyId.length ≤ s.stream.length →
      (s.step c).answer = .ok (.record s.records.length) →
      s.builtId? c = some (KeyId.ofBlock (s.stream.take KeyId.length)) →
      (s.step c).session.stream = s.stream.drop KeyId.length → Drawing s c
  /-- A stream that ends within the block makes the call fail, and there is no record. -/
  | dry : c.Builds → s.stream.length < KeyId.length →
      (s.step c).answer = .error .drawsExhausted → s.builtId? c = none →
      (s.step c).session.records = s.records → (s.step c).session.stream = [] → Drawing s c

end Session

/-- What building a record takes of the draws, and what comes of it. -/
inductive Key.Drawn (s : Draws) : Except Failure Key → Draws → Prop
  | untouched {e : Failure} : e ≠ .drawsExhausted → Drawn s (.error e) s
  | block {k : Key} {s' : Draws} : KeyId.length ≤ s.accepted.length →
      k.id = KeyId.ofBlock (s.accepted.take KeyId.length) →
      s'.accepted = s.accepted.drop KeyId.length → Drawn s (.ok k) s'
  | dry {s' : Draws} : s.accepted.length < KeyId.length → s'.accepted = [] →
      Drawn s (.error .drawsExhausted) s'

/-! ## Building -/

theorem Clock.ne_drawsExhausted {c : Clock} {e : Failure} (h : c.read.1 = .error e) :
    e ≠ .drawsExhausted := by
  rintro rfl
  cases c with
  | stepping now step =>
    rw [read] at h
    cases hm : now.move? step <;> simp [hm] at h
  | scripted readings => cases readings <;> cases h

theorem Field.ne_drawsExhausted {room : Room} {now : Instant} {ms : Members} {e : Failure}
    (h : readAll room now absentFromCreation ms list = .error e) : e ≠ .drawsExhausted := by
  obtain ⟨_, _, _, -, -, hfault⟩ :=
    (readAll_eq_error_iff fun _ => takes_null_of_absentFromCreation).1 h
  rcases hfault.cases_rejected with ⟨r, -, rfl⟩ | ⟨raw, -, hescapes⟩
  · exact Failure.noConfusion
  · cases hescapes <;> exact Failure.noConfusion

namespace Key

theorem drawn_build {now : Zoned} (hnow : now.Utc) (parts : List Assignment) (s : Draws) :
    Drawn s (build now parts s).1 (build now parts s).2 := by
  have hfirst := KeyId.generate_fst s
  have hrest := KeyId.accepted_generate s
  unfold build
  revert hfirst hrest
  rcases KeyId.generate s with ⟨_ | id, rest⟩ <;> intro hfirst hrest
  · have hshort : s.accepted.length < KeyId.length := by
      by_contra hle
      rw [if_pos (not_lt.1 hle)] at hfirst
      cases hfirst
    exact .dry hshort (hrest.trans (List.drop_eq_nil_of_le hshort.le))
  · obtain ⟨hle, hid⟩ := Option.ite_none_right_eq_some.1 hfirst.symm
    dsimp only
    rw [hnow.utc?]
    refine .block hle ?_ hrest
    rw [id_assignAll]
    exact (Option.some.inj hid).symm

theorem drawn_create {s : Supplies} (hclock : s.clock.Utc) (body : Value) :
    Drawn s.draws (create body s).1 (create body s).2.draws := by
  have hutc : ∀ now, s.clock.read.1 = .ok now → now.Utc := fun now => hclock.read
  have herror : ∀ e, s.clock.read.1 = .error e → e ≠ .drawsExhausted :=
    fun e => Clock.ne_drawsExhausted
  cases body with
  | object ms =>
    unfold create
    revert hutc herror
    rcases s.clock.read with ⟨e | now, clock⟩ <;> intro hutc herror
    · exact .untouched (herror e rfl)
    · dsimp only
      cases hall : Field.readAll s.room now.instant Field.absentFromCreation ms Field.list with
      | error e => exact .untouched (Field.ne_drawsExhausted hall)
      | ok parts => exact drawn_build (hutc now rfl) parts s.draws
  | _ => exact .untouched Failure.noConfusion

theorem drawn_createDefault {s : Supplies} (hclock : s.clock.Utc) (settings : Settings)
    (which : DefaultKey) :
    Drawn s.draws (createDefault settings which s).1 (createDefault settings which s).2.draws := by
  have hutc : ∀ now, s.clock.read.1 = .ok now → now.Utc := fun now => hclock.read
  have herror : ∀ e, s.clock.read.1 = .error e → e ≠ .drawsExhausted :=
    fun e => Clock.ne_drawsExhausted
  unfold createDefault
  revert hutc herror
  rcases s.clock.read with ⟨e | now, clock⟩ <;> intro hutc herror
  · exact .untouched (herror e rfl)
  · exact drawn_build (hutc now rfl) _ _

end Key

/-! ## One command -/

namespace Session

variable {s : Session} {c : Command} {cs : List Command}

theorem drawing_give {r : Except Failure Key} {supplies : Supplies} {events : Key → List Event}
    (hc : c.Builds) (hstep : s.step c = ({ s with supplies } : Session).give r events)
    (hbuilt : s.builtId? c = (s.step c).session.records[s.records.length]?.map (·.key.id))
    (h : Key.Drawn s.supplies.draws r supplies.draws) : s.Drawing c := by
  cases r with
  | error e =>
    have hnone : s.builtId? c = none := by
      rw [hbuilt, hstep]
      exact congrArg (Option.map _) (List.getElem?_eq_none (le_refl s.records.length))
    have hanswer : (s.step c).answer = .error e := by rw [hstep]; rfl
    have hrecords : (s.step c).session.records = s.records := by rw [hstep]; rfl
    have hdraws : (s.step c).session.supplies.draws = supplies.draws := by rw [hstep]; rfl
    generalize supplies.draws = draws at h hdraws
    cases h with
    | untouched he => exact .untouched hdraws hnone fun _ => ⟨e, he, hanswer, hrecords⟩
    | dry hshort hrest =>
      exact .dry hc hshort hanswer hnone hrecords ((congrArg Draws.accepted hdraws).trans hrest)
  | ok k =>
    have hsome : s.builtId? c = some k.id := by
      rw [hbuilt, hstep]
      exact congrArg (Option.map _) List.getElem?_concat_length
    have hanswer : (s.step c).answer = .ok (.record s.records.length) := by rw [hstep]; rfl
    have hdraws : (s.step c).session.supplies.draws = supplies.draws := by rw [hstep]; rfl
    cases h with
    | block hlength hid hrest =>
      exact .block hc hlength hanswer (hsome.trans (congrArg some hid))
        ((congrArg Draws.accepted hdraws).trans hrest)

theorem draws_update (s : Session) (h : Handle) (body : Value) :
    (s.step (.update h body)).session.supplies.draws = s.supplies.draws := by
  rcases s.supplies_update h body with heq | heq <;> rw [heq]

/-- **A call of the builder takes nothing of the draws, or a block, or all that is left.** -/
theorem drawing (hclock : s.supplies.clock.Utc) (hc : c.OfBuilder) : s.Drawing c := by
  cases c with
  | create body =>
    exact drawing_give trivial (step_create s body) rfl (Key.drawn_create hclock body)
  | createDefault which =>
    exact drawing_give trivial (step_createDefault s which) rfl
      (Key.drawn_createDefault hclock s.builder which)
  | update h body => exact .untouched (s.draws_update h body) rfl fun hbuilds => hbuilds.elim
  | _ => exact hc.elim

/-! ## Runs -/

theorem builtIds_eq (hclock : s.supplies.clock.Utc) (hcs : ∀ c ∈ cs, c.OfBuilder) :
    (∀ n id, (s.builtIds cs)[n]? = some id →
        KeyId.length * (n + 1) ≤ s.stream.length ∧
          id = KeyId.ofBlock ((s.stream.drop (KeyId.length * n)).take KeyId.length)) ∧
      (KeyId.length * ((s.builtIds cs).length + 1) ≤ s.stream.length →
        (s.run cs).stream = s.stream.drop (KeyId.length * (s.builtIds cs).length)) := by
  induction cs generalizing s with
  | nil => exact ⟨fun n id h => (nomatch h), fun _ => rfl⟩
  | cons c cs ih =>
    obtain ⟨hc, hcs⟩ := List.forall_mem_cons.1 hcs
    obtain ⟨hids, hleft⟩ := ih (utc_step hclock c) hcs
    cases drawing hclock hc with
    | untouched hdraws hnone _ =>
      have hstream : (s.step c).session.stream = s.stream := congrArg Draws.accepted hdraws
      rw [hstream] at hids hleft
      rw [builtIds, hnone]
      exact ⟨hids, hleft⟩
    | block _ hlength _ hid hrest =>
      -- the block is the first one, and the run goes on with the stream after it
      have hnext : ∀ n, KeyId.length * (n + 1) = KeyId.length + KeyId.length * n := fun n => by
        rw [Nat.mul_succ, Nat.add_comm]
      rw [hrest] at hids hleft
      simp only [List.length_drop, List.drop_drop, ← hnext] at hids hleft
      have hbuilt : s.builtIds (c :: cs) = KeyId.ofBlock (s.stream.take KeyId.length) ::
          (s.step c).session.builtIds cs := by rw [builtIds, hid]; rfl
      rw [hbuilt, List.length_cons]
      refine ⟨fun n id hn => ?_, fun hmore => ?_⟩
      · cases n with
        | zero =>
          obtain rfl := Option.some.inj hn
          exact ⟨by omega, rfl⟩
        | succ n =>
          obtain ⟨hle, hblock⟩ := hids n id hn
          exact ⟨by rw [hnext]; omega, hblock⟩
      · rw [hnext] at hmore
        exact hleft (by omega)
    | dry _ hshort _ hnone _ hrest =>
      rw [hrest] at hids hleft
      have hnil : (s.step c).session.builtIds cs = [] := by
        refine List.eq_nil_iff_forall_not_mem.2 fun id hid => ?_
        obtain ⟨n, hn⟩ := List.mem_iff_getElem?.1 hid
        have hle : KeyId.length * (n + 1) ≤ 0 := (hids n id hn).1
        exact absurd hle (by rw [KeyId.length]; omega)
      rw [builtIds, hnone, hnil]
      refine ⟨fun n id h => (nomatch h), fun hmore => ?_⟩
      rw [Option.toList_none, List.append_nil, List.length_nil] at hmore
      omega

/-! ## Other draws -/

theorem builtId?_rename {f : Text → Text} (hf : Renaming f) {supplies : Supplies}
    (h : s.supplies.Renames f supplies) (hc : c.OfBuilder) :
    (s.rename f supplies).builtId? c = (s.builtId? c).map f := by
  have hbuilt : ∀ c : Command, c.BringsNoId → c.rename f = c →
      ((s.rename f supplies).step c).session.records[(s.rename f supplies).records.length]?.map
        (·.key.id) = ((s.step c).session.records[s.records.length]?.map (·.key.id)).map f := by
    intro c hbrings hrename
    obtain ⟨supplies', -, ho⟩ := hf.step h hbrings
    rw [hrename] at ho
    rw [ho, Session.rename, List.length_map]
    show ((s.step c).session.records.map (Held.rename f))[s.records.length]?.map _ = _
    rw [List.getElem?_map, Option.map_map, Option.map_map]
    rfl
  cases c with
  | create body => exact hbuilt _ trivial rfl
  | createDefault which => exact hbuilt _ trivial rfl
  | _ => rfl

theorem builtIds_rename {f : Text → Text} (hf : Renaming f) {supplies : Supplies}
    (h : s.supplies.Renames f supplies) (hcs : ∀ c ∈ cs, c.OfBuilder) :
    (s.rename f supplies).builtIds cs = (s.builtIds cs).map f := by
  induction cs generalizing s supplies with
  | nil => rfl
  | cons c cs ih =>
    obtain ⟨hc, hcs⟩ := List.forall_mem_cons.1 hcs
    have hbrings : c.BringsNoId ∧ c.rename f = c := by
      cases c <;> first | exact ⟨trivial, rfl⟩ | exact hc.elim
    obtain ⟨supplies', hsupplies', ho⟩ := hf.step h hbrings.1
    rw [hbrings.2] at ho
    have hrest : ((s.rename f supplies).step c).session.builtIds cs =
        ((s.step c).session.builtIds cs).map f := by
      rw [ho]
      exact ih hsupplies' hcs
    rw [builtIds, builtIds, builtId?_rename hf h hc, hrest, List.map_append]
    cases s.builtId? c <;> rfl

theorem withDraws_eq_rename (s : Session) (draws : Draws) :
    s.withDraws draws = s.rename id { s.supplies with draws } := by
  have hstray : ∀ t : Stray, t.rename id = t := by
    intro t
    obtain ⟨part, value, origin⟩ := t
    rw [Stray.rename]
    split
    · cases value <;> rfl
    · rfl
  have hheld : ∀ r : Held, r.rename id = r := by
    intro r
    have hstrays : r.strays.map (Stray.rename id) = r.strays :=
      (List.map_congr_left fun t _ => hstray t).trans (List.map_id _)
    rw [Held.rename, hstrays]
    rfl
  have hrecords : s.records.map (Held.rename id) = s.records :=
    (List.map_congr_left fun r _ => hheld r).trans (List.map_id _)
  have hstore : s.store.rename id = s.store := by
    rw [Store.rename]
    exact congrArg Store.mk (List.map_id _)
  rw [rename, hrecords, hstore]
  rfl

/-- **Draws that number no letter change no identifier**: with any source that has the same stream,
the same commands build records with the same identifiers. -/
theorem builtIds_withDraws {draws : Draws} (hdraws : draws.accepted = s.stream)
    (hcs : ∀ c ∈ cs, c.OfBuilder) : (s.withDraws draws).builtIds cs = s.builtIds cs := by
  have hid : Renaming id := ⟨Function.injective_id, fun _ => rfl⟩
  have hyield : s.supplies.draws.Renames id draws := fun n => by
    rw [KeyId.yield_congr hdraws, Option.map_id]
    rfl
  have hsupplies : s.supplies.Renames id { s.supplies with draws } := ⟨rfl, rfl, hyield⟩
  rw [withDraws_eq_rename, builtIds_rename hid hsupplies hcs, List.map_id]

/-- **The identifiers of the records that a builder gives are the consecutive blocks of its
stream.** Under a UTC clock, after any calls, the record that was built `n`-th (from zero) has the
text of the letters from `64 n` on, 64 of them. As long as one more block is left, the stream has
given these blocks and no more. Each further call leaves the draws alone, gives a record for the
next block, or fails because the stream ends within it (`Drawing`). Draws that number no letter do
not matter, and each of the 62 ^ 64 valid identifiers comes from one block and no other. -/
theorem identifiers_from_stream (hclock : s.supplies.clock.Utc) (hcs : ∀ c ∈ cs, c.OfBuilder) :
    (∀ n id, (s.builtIds cs)[n]? = some id →
        64 * (n + 1) ≤ s.stream.length ∧
          id = KeyId.ofBlock ((s.stream.drop (64 * n)).take 64)) ∧
      (64 * ((s.builtIds cs).length + 1) ≤ s.stream.length →
        (s.run cs).stream = s.stream.drop (64 * (s.builtIds cs).length)) ∧
      (∀ c : Command, c.OfBuilder → (s.run cs).Drawing c) ∧
      (∀ draws : Draws, draws.accepted = s.stream →
        (s.withDraws draws).builtIds cs = s.builtIds cs) ∧
      Nat.card {id : Text // KeyId.Valid id} = 62 ^ 64 ∧
      ∀ id, KeyId.Valid id → ∃! block : List KeyId.Letter, block.length = 64 ∧
        ∀ draws : Draws, (KeyId.generate draws).1 = some id ↔ draws.accepted.take 64 = block := by
  obtain ⟨hids, hleft⟩ := builtIds_eq hclock hcs
  exact ⟨hids, hleft, fun c hc => drawing (utc_run hclock cs) hc,
    fun draws hdraws => builtIds_withDraws hdraws hcs, KeyId.card_valid,
    fun id hid => KeyId.existsUnique_block hid⟩

/-- Two records, from draws that number no letter among others, after a call that is refused. -/
theorem identifiers_from_stream_two :
    let draws : List Draw := 63 :: List.replicate 64 0 ++ 62 :: List.replicate 64 1 ++ [5]
    let plain : List Draw := List.replicate 64 0 ++ List.replicate 64 1 ++ [5]
    let s := { sample [] with
      supplies := ⟨.stepping ⟨0, 0⟩ 1, .ofList draws draws.length, ⟨0, 0⟩⟩ }
    let cs : List Command :=
      [.create .null, .createDefault .admin, .update 0 (.object []), .createDefault .search]
    (s.builtIds cs)[1]? = some (List.replicate 64 (.char 'b')) ∧
      (s.withDraws (.ofList plain plain.length)).builtIds cs = s.builtIds cs ∧
      (s.run cs).Drawing (.createDefault .admin) := by
  intro draws plain s cs
  have hclock : s.supplies.clock.Utc := ⟨rfl, by decide⟩
  have hcs : ∀ c ∈ cs, c.OfBuilder := by simp [cs, Command.OfBuilder]
  obtain ⟨hids, -, hdrawing, hcongr, -⟩ := identifiers_from_stream hclock hcs
  have hsome : (s.builtIds cs)[1]?.isSome = true := by decide +kernel
  have hblock : KeyId.ofBlock ((s.stream.drop (64 * 1)).take 64) =
      List.replicate 64 (.char 'b') := by decide +kernel
  have hplain : (Draws.ofList plain plain.length).accepted = s.stream := by decide +kernel
  obtain ⟨id, hid⟩ := Option.isSome_iff_exists.1 hsome
  refine ⟨?_, hcongr _ hplain, hdrawing _ trivial⟩
  rw [hid, (hids 1 id hid).2, hblock]

end Session

end ApiKeys
