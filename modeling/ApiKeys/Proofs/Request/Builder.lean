import ApiKeys.Proofs.Request.Judgement
import ApiKeys.Proofs.Time.Clock
import ApiKeys.Request.Builder

/-!
# What building and changing a record come to

A draw of identifiers gives valid ones (`KeyId.valid_of_generate`). A record that was built is the
blank one of its identifier and reading with the parts that the request assigns
(`Key.create_eq_ok`, `Key.createDefault_eq_ok`), a change is what the request assigns at its reading
(`Key.changes_eq_ok`), and no operation does more to a clock than to read it once.
-/

namespace ApiKeys

/-! ## Identifiers -/

namespace KeyId

theorem pick_eq_some {supply : Nat} {g : Generator} {c : Char} (h : (pick supply g).1 = some c) :
    c ∈ alphabet := by
  induction supply generalizing g with
  | zero => cases h
  | succ supply ih =>
    rw [pick] at h
    cases hc : character? g.next.1 with
    | some c' =>
      obtain rfl : c' = c := by simpa [hc] using h
      exact List.mem_of_getElem? hc
    | none =>
      rw [hc] at h
      exact ih h

theorem pickMany_eq_some {count : Nat} {s : Draws} {cs : List Char}
    (h : (pickMany count s).1 = some cs) : cs.length = count ∧ ∀ c ∈ cs, c ∈ alphabet := by
  induction count generalizing s cs with
  | zero =>
    obtain rfl := Option.some.inj h
    exact ⟨rfl, by simp⟩
  | succ count ih =>
    rw [pickMany] at h
    rcases hp : pick s.supply s.generator with ⟨_ | c, s'⟩
    · simp [hp] at h
    · rcases hm : pickMany count s' with ⟨_ | cs', s''⟩
      · simp [hp, hm] at h
      · obtain rfl : c :: cs' = cs := by simpa [hp, hm] using h
        obtain ⟨hlen, hmem⟩ := ih (congrArg Prod.fst hm)
        have hc : c ∈ alphabet := pick_eq_some (congrArg Prod.fst hp)
        exact ⟨by rw [List.length_cons, hlen], List.forall_mem_cons.2 ⟨hc, hmem⟩⟩

theorem valid_of_generate {s : Draws} {id : Text} (h : (generate s).1 = some id) : Valid id := by
  obtain ⟨cs, hcs, rfl⟩ := Option.map_eq_some_iff.1 (show (pickMany length s).1.map _ = some id from h)
  obtain ⟨hlen, hmem⟩ := pickMany_eq_some hcs
  refine ⟨by rw [Text.ofChars, List.length_map, hlen], fun p hp => ?_⟩
  obtain ⟨c, hc, rfl⟩ := List.mem_map.1 hp
  exact List.contains_iff_mem.2 (hmem c hc)

end KeyId

/-! ## Records -/

namespace Key

theorem build_eq_ok {now : Zoned} {parts : List Assignment} {draws : Draws} {k : Key}
    (h : (build now parts draws).1 = .ok k) :
    ∃ id t, KeyId.Valid id ∧ now.utc? = some t ∧ k = (blank id t).assignAll parts := by
  rw [build] at h
  rcases hg : KeyId.generate draws with ⟨_ | id, draws'⟩
  · simp [hg] at h
  · cases ht : now.utc? with
    | none => simp [hg, ht] at h
    | some t =>
      obtain rfl : (blank id t).assignAll parts = k := by simpa [hg, ht] using h
      exact ⟨id, t, KeyId.valid_of_generate (congrArg Prod.fst hg), rfl, rfl⟩

theorem build_of_representable {now : Zoned} (hnow : now.instant.Representable)
    (parts : List Assignment) {draws : Draws} {id : Text}
    (hid : (KeyId.generate draws).1 = some id) :
    (build now parts draws).1 = .ok ((blank id now.instant).assignAll parts) := by
  have hutc : now.utc? = some now.instant := if_pos hnow
  rw [build]
  rcases hg : KeyId.generate draws with ⟨o, draws'⟩
  obtain rfl : o = some id := by rwa [hg] at hid
  simp only [hutc]

theorem build_of_utc {now : Zoned} (hnow : now.Utc) (parts : List Assignment) {draws : Draws}
    {id : Text} (hid : (KeyId.generate draws).1 = some id) :
    (build now parts draws).1 = .ok ((blank id now.instant).assignAll parts) :=
  build_of_representable hnow.representable parts hid

theorem create_of_read {s : Supplies} {now : Zoned} (h : s.clock.read.1 = .ok now) (ms : Members) :
    (create (.object ms) s).1 = match Field.readAll s.room now.instant Field.absentFromCreation ms
        Field.list with
      | .error e => .error e
      | .ok parts => (build now parts s.draws).1 := by
  rw [create]
  rcases hr : s.clock.read with ⟨o, clock⟩
  obtain rfl : o = .ok now := by rwa [hr] at h
  cases hall : Field.readAll s.room now.instant Field.absentFromCreation ms Field.list <;> simp [hall]

theorem create_eq_ok {body : Value} {s : Supplies} {k : Key} (h : (create body s).1 = .ok k) :
    ∃ ms now parts, body = .object ms ∧ s.clock.read.1 = .ok now ∧
      Field.readAll s.room now.instant Field.absentFromCreation ms Field.list = .ok parts ∧
      (build now parts s.draws).1 = .ok k := by
  cases body with
  | object ms =>
    cases hr : s.clock.read.1 with
    | error f =>
      rw [create] at h
      rcases hs : s.clock.read with ⟨o, clock⟩
      obtain rfl : o = .error f := by rwa [hs] at hr
      simp [hs] at h
    | ok now =>
      rw [create_of_read hr] at h
      cases hall : Field.readAll s.room now.instant Field.absentFromCreation ms Field.list with
      | error e => simp [hall] at h
      | ok parts =>
        rw [hall] at h
        exact ⟨ms, now, parts, rfl, rfl, hall, h⟩
  | _ => cases h

theorem createDefault_eq_ok {settings : Settings} {which : DefaultKey} {s : Supplies} {k : Key}
    (h : (createDefault settings which s).1 = .ok k) :
    ∃ now, s.clock.read.1 = .ok now ∧ (build now (which.parts settings) s.draws).1 = .ok k := by
  rw [createDefault] at h
  rcases hr : s.clock.read with ⟨_ | now, clock⟩
  · simp [hr] at h
  · exact ⟨now, rfl, by simpa [hr] using h⟩

theorem changes_of_read {room : Room} {clock : Clock} {now : Zoned} (h : clock.read.1 = .ok now)
    (ms : Members) :
    (changes room (.object ms) clock).1 =
      (Field.readAll room now.instant Field.absentFromUpdate ms Field.list).map
        fun as => (now, as) := by
  rw [changes]
  rcases hr : clock.read with ⟨o, clock'⟩
  obtain rfl : o = .ok now := by rwa [hr] at h
  rfl

theorem changes_eq_ok {room : Room} {body : Value} {clock : Clock} {now : Zoned}
    {as : List Assignment} (h : (changes room body clock).1 = .ok (now, as)) :
    ∃ ms, body = .object ms ∧ clock.read.1 = .ok now ∧
      Field.readAll room now.instant Field.absentFromUpdate ms Field.list = .ok as := by
  cases body with
  | object ms =>
    cases hr : clock.read.1 with
    | error f =>
      rw [changes] at h
      rcases hs : clock.read with ⟨o, clock'⟩
      obtain rfl : o = .error f := by rwa [hs] at hr
      simp [hs] at h
    | ok now' =>
      rw [changes_of_read hr] at h
      cases hall : Field.readAll room now'.instant Field.absentFromUpdate ms Field.list with
      | error e => simp [hall, Except.map] at h
      | ok as' =>
        obtain ⟨rfl, rfl⟩ : now' = now ∧ as' = as := by simpa [hall, Except.map] using h
        exact ⟨ms, rfl, rfl, hall⟩
  | _ => cases h

theorem held_change (k : Key) (now : Zoned) (as : List Assignment) (f : Field) :
    (k.change now as).held f = (k.assignAll as).held f := by
  cases f <;> rfl

/-! ## Clocks -/

theorem changes_clock (room : Room) (body : Value) (clock : Clock) :
    (changes room body clock).2 = clock ∨ (changes room body clock).2 = clock.read.2 := by
  cases body with
  | object ms =>
    rw [changes]
    rcases clock.read with ⟨_ | now, clock'⟩ <;> exact .inr rfl
  | _ => exact .inl rfl

theorem create_clock (body : Value) (s : Supplies) :
    (create body s).2.clock = s.clock ∨ (create body s).2.clock = s.clock.read.2 := by
  cases body with
  | object ms =>
    rw [create]
    rcases s.clock.read with ⟨_ | now, clock⟩
    · exact .inr rfl
    · dsimp only
      cases Field.readAll s.room now.instant Field.absentFromCreation ms Field.list <;> exact .inr rfl
  | _ => exact .inl rfl

theorem createDefault_clock (settings : Settings) (which : DefaultKey) (s : Supplies) :
    (createDefault settings which s).2.clock = s.clock.read.2 := by
  rw [createDefault]
  rcases s.clock.read with ⟨_ | now, clock⟩ <;> rfl

end Key

end ApiKeys
