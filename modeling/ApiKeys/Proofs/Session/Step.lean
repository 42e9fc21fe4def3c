import ApiKeys.Proofs.Key.Identity
import ApiKeys.Proofs.Key.WellFormed
import ApiKeys.Session

/-!
# What a command does to a record

A record keeps its number. Of all commands only an update and an assignment change the record under
a number, and only one under the number that they name (`Session.step_effect`,
`Session.step_frame`); a command that gives a record puts it after the others. An update applies all
that a request without fault assigns, and nothing else (`Session.step_update`). No command takes a
clock out of UTC (`Session.utc_step`), and few write to the store (`Command.writes`).
-/

namespace ApiKeys

namespace Command

/-- The record whose parts a command may replace. -/
def target? : Command → Option Handle
  | .update h _ | .assign h _ _ => some h
  | _ => none

/-- The command writes to the store. -/
def writes : Command → Bool
  | .insert _ | .replace _ | .delete _ | .seed => true
  | _ => false

/-- The command does not replace the parts of a record all at once. -/
def KeepsParts : Command → Prop
  | .assign _ (.text name) (.object _) => name ≠ ("__dict__" : Text)
  | _ => True

end Command

namespace Session

variable {s : Session} {h : Handle} {k : Key}

/-! ## Outcomes -/

theorem give_eq_ok {r : Except Failure Key} {events : Key → List Event} {a : Answer}
    (ha : (s.give r events).answer = .ok a) :
    ∃ k, r = .ok k ∧ a = .record s.records.length ∧
      (s.give r events).session.records[s.records.length]? = some (.ofKey k) := by
  cases r with
  | error f => cases ha
  | ok k => exact ⟨k, rfl, (Except.ok.inj ha).symm, List.getElem?_concat_length⟩

theorem eq_ok_of_toOption {α : Type} {r : Except Failure α} {a : α} (h : r.toOption = some a) :
    r = .ok a := by
  cases r with
  | error f => cases h
  | ok b => exact congrArg Except.ok (Option.some.inj h)

theorem answer_of_toOption {o : Outcome} {a : Answer} (h : o.answer.toOption = some a) :
    o.answer = .ok a := eq_ok_of_toOption h

theorem step_create (s : Session) (body : Value) : s.step (.create body) =
    ({ s with supplies := (Key.create body s.supplies).2 } : Session).give
      (Key.create body s.supplies).1 fun k => [.created k.id k.actions k.indexes] := rfl

theorem step_createDefault (s : Session) (which : DefaultKey) : s.step (.createDefault which) =
    ({ s with supplies := (Key.createDefault s.builder which s.supplies).2 } : Session).give
      (Key.createDefault s.builder which s.supplies).1 fun _ => [] := rfl

theorem onRecord_of_some {r : Held} (hr : s.records[h]? = some r) (f : Held → Outcome) :
    s.onRecord h f = f r := by
  rw [onRecord, hr]

theorem session_lookUp (id : Value) (answer : Option Handle → Answer) :
    (s.lookUp id answer).session = s := by
  rw [lookUp]
  cases s.store.find id <;> rfl

theorem session_told (r : Held) (answer : Answer) (event : Text → Event) :
    (s.told r answer event).session = s := by
  rw [told]
  cases r.shownId <;> rfl

theorem session_insert (r : Held) : ∃ store, (s.insert h r).session = { s with store } := by
  rw [insert]
  split
  · exact ⟨s.store, rfl⟩
  · split <;> exact ⟨_, rfl⟩
  · split <;> exact ⟨s.store, rfl⟩

theorem session_replace (r : Held) : ∃ store, (s.replace h r).session = { s with store } := by
  rw [replace]
  split
  · exact ⟨s.store, rfl⟩
  · split <;> exact ⟨_, rfl⟩
  · split <;> exact ⟨s.store, rfl⟩

theorem session_delete (id : Value) : ∃ store, (s.delete id).session = { s with store } := by
  unfold delete
  split
  · exact ⟨s.store, rfl⟩
  · cases id with
    | text id => exact ⟨s.store.erase id, rfl⟩
    | _ => exact ⟨s.store, session_lookUp _ _⟩

/-! ## The record under a number -/

theorem step_update (hr : s.records[h]? = some (.ofKey k)) (body : Value) :
    s.step (.update h body) = match Key.changes s.supplies.room body s.supplies.clock with
      | (.error f, clock) => (s.setClock clock).fail f
      | (.ok (now, as), clock) =>
        ⟨.ok (.record h), [.updated (k.change now as).id (as.filterMap Assignment.field?)],
          (s.setClock clock).setRecord h (.ofKey (k.change now as))⟩ := by
  rw [step, onRecord_of_some hr]
  rcases Key.changes s.supplies.room body s.supplies.clock with ⟨_ | ⟨now, as⟩, clock⟩
  · rfl
  · simp only [Held.change_ofKey]
    rfl

theorem answer_update {r : Held} (hr : s.records[h]? = some r) (hfit : r.Changeable) (body : Value) :
    (s.step (.update h body)).answer =
      (Key.changes s.supplies.room body s.supplies.clock).1.map fun _ => .record h := by
  rw [step, onRecord_of_some hr]
  rcases Key.changes s.supplies.room body s.supplies.clock with ⟨_ | ⟨now, as⟩, clock⟩
  · rfl
  · obtain ⟨t, ht⟩ := hfit.shownId_change now as
    have hdone := hfit.change now as
    revert ht hdone
    dsimp only
    rcases r.change now as with ⟨changed, fault⟩
    rintro ht rfl
    dsimp only at ht ⊢
    rw [told, ht]
    rfl

theorem records_update_of_error (hr : s.records[h]? = some (.ofKey k)) {body : Value} {e : Failure}
    (he : (s.step (.update h body)).answer = .error e) :
    (s.step (.update h body)).session.records = s.records := by
  rw [step_update hr] at he ⊢
  rcases hc : Key.changes s.supplies.room body s.supplies.clock with ⟨_ | ⟨now, as⟩, clock⟩
  · rfl
  · simp [hc] at he

theorem step_update_eq_ok (hr : s.records[h]? = some (.ofKey k)) {body : Value} {a : Answer}
    (ha : (s.step (.update h body)).answer = .ok a) :
    ∃ ms now as, body = .object ms ∧ s.supplies.clock.read.1 = .ok now ∧
      Field.readAll s.supplies.room now.instant Field.absentFromUpdate ms Field.list = .ok as ∧
      a = .record h ∧
      (s.step (.update h body)).session.records[h]? = some (.ofKey (k.change now as)) := by
  rw [step_update hr] at ha ⊢
  rcases hc : Key.changes s.supplies.room body s.supplies.clock with ⟨_ | ⟨now, as⟩, clock⟩
  · simp [hc, fail] at ha
  · obtain ⟨ms, rfl, hread, hall⟩ := Key.changes_eq_ok (congrArg Prod.fst hc)
    obtain rfl : a = .record h := by simpa [hc, eq_comm] using ha
    have hlt : h < s.records.length := (List.getElem?_eq_some_iff.1 hr).1
    exact ⟨ms, now, as, rfl, hread, hall, rfl, List.getElem?_set_self hlt⟩

/-! ## All commands

What is the same for all commands is said once, of the records, the clock and the store together, so
that the commands are gone through once. -/

/-- The session has the record, or the record is one that is well-formed and has no strays. -/
def Admits (s : Session) (r : Held) : Prop := r ∈ s.records ∨ ∃ k : Key, k.WellFormed ∧ r = .ofKey k

/-- What a command may do to the records, the clock and the store of a session: the records stay
what they are and more may come after them, unless the command replaces the record that it names; a
clock in UTC stays in UTC; the store stays as it is, unless the command is one that writes to it. -/
structure Effect (s : Session) (c : Command) (s' : Session) : Prop where
  records : (∃ extra, s'.records = s.records ++ extra ∧ ∀ r ∈ extra, s.Admits r) ∨
    ∃ h r r', c.target? = some h ∧ s.records[h]? = some r ∧ s'.records = s.records.set h r' ∧
      (c.KeepsParts → r.SameOrigin r')
  clock : s.supplies.clock.Utc → s'.supplies.clock.Utc
  store : c.writes = false → s'.store = s.store

theorem seed_cases (s : Session) :
    s.seed = ⟨.ok (.records []), [], s⟩ ∨
      ∃ supplies : Supplies, (s.supplies.clock.Utc → supplies.clock.Utc) ∧
        ((∃ f, s.seed = ({ s with supplies } : Session).fail f) ∨
          ∃ admin search : Key, s.store.entries = [] ∧ admin.WellFormed ∧ search.WellFormed ∧
            s.seed = ⟨.ok (.records [s.records.length, s.records.length + 1]), [.seeded 2],
              { s with
                records := s.records ++ [.ofKey admin, .ofKey search]
                store :=
                  (s.store.put admin.id s.records.length).put search.id (s.records.length + 1)
                supplies }⟩) := by
  unfold seed
  split
  · exact .inl rfl
  · next hidle =>
    have hempty : s.store.entries = [] := by_contra fun h => hidle (.inr h)
    have hread : s.supplies.clock.Utc →
        (Key.createDefault s.builder .admin s.supplies).2.clock.Utc :=
      fun hs => hs.kept (.inr (Key.createDefault_clock s.builder .admin s.supplies))
    rcases hadmin : Key.createDefault s.builder .admin s.supplies with ⟨_ | admin, supplies⟩ <;>
      rw [hadmin] at hread
    · exact .inr ⟨supplies, hread, .inl ⟨_, rfl⟩⟩
    · -- The second record is built from what the first one leaves of the supplies.
      have hread' : s.supplies.clock.Utc →
          (Key.createDefault s.builder .search supplies).2.clock.Utc :=
        fun hs => (hread hs).kept (.inr (Key.createDefault_clock s.builder .search supplies))
      dsimp only
      rcases hsearch : Key.createDefault s.builder .search supplies with ⟨_ | search, supplies'⟩ <;>
        rw [hsearch] at hread'
      · exact .inr ⟨supplies', hread', .inl ⟨_, rfl⟩⟩
      · exact .inr ⟨supplies', hread', .inr ⟨admin, search, hempty,
          Key.wellFormed_of_createDefault (congrArg Prod.fst hadmin),
          Key.wellFormed_of_createDefault (congrArg Prod.fst hsearch), rfl⟩⟩

namespace Effect

variable {c : Command} {s' : Session}

theorem of_records_eq (hrecords : s'.records = s.records) (hstore : s'.store = s.store)
    (hclock : s.supplies.clock.Utc → s'.supplies.clock.Utc) : Effect s c s' where
  records := .inl ⟨[], by rw [hrecords, List.append_nil], fun _ hr => (nomatch hr)⟩
  clock := hclock
  store := fun _ => hstore

theorem of_eq (hrecords : s'.records = s.records) (hstore : s'.store = s.store)
    (hsupplies : s'.supplies = s.supplies) : Effect s c s' :=
  of_records_eq hrecords hstore fun hs => by rwa [hsupplies]

theorem of_append (extra : List Held) (hextra : ∀ r ∈ extra, s.Admits r)
    (hrecords : s'.records = s.records ++ extra)
    (hclock : s.supplies.clock.Utc → s'.supplies.clock.Utc)
    (hstore : c.writes = false → s'.store = s.store) : Effect s c s' :=
  ⟨.inl ⟨extra, hrecords, hextra⟩, hclock, hstore⟩

theorem of_store (hc : c.writes = true) (h : ∃ store, s' = { s with store }) : Effect s c s' := by
  obtain ⟨store, rfl⟩ := h
  exact of_append [] (fun _ hr => (nomatch hr)) (List.append_nil _).symm id
    fun hnot => absurd (hc.symm.trans hnot) Bool.noConfusion

theorem give {supplies : Supplies} {r : Except Failure Key} {events : Key → List Event}
    (hclock : s.supplies.clock.Utc → supplies.clock.Utc) (hr : ∀ k, r = .ok k → k.WellFormed) :
    Effect s c ((({ s with supplies } : Session).give r events).session) := by
  cases r with
  | error f => exact of_records_eq rfl rfl hclock
  | ok k =>
    refine of_append [.ofKey k] (fun r hmem => ?_) rfl hclock fun _ => rfl
    exact .inr ⟨k, hr k rfl, List.mem_singleton.1 hmem⟩

theorem onRecord {f : Held → Outcome} (hf : ∀ r, s.records[h]? = some r → Effect s c (f r).session) :
    Effect s c (s.onRecord h f).session := by
  rw [Session.onRecord]
  split
  · next r hr => exact hf r hr
  · exact of_eq rfl rfl rfl

theorem lookUp (id : Value) (answer : Option Handle → Answer) :
    Effect s c (s.lookUp id answer).session := by
  rw [session_lookUp]
  exact of_eq rfl rfl rfl

theorem update {r : Held} (body : Value) (hr : s.records[h]? = some r) :
    Effect s (.update h body) (s.step (.update h body)).session := by
  have hclock : s.supplies.clock.Utc → (Key.changes s.supplies.room body s.supplies.clock).2.Utc :=
    fun hs => hs.kept (Key.changes_clock _ body s.supplies.clock)
  rw [step, onRecord_of_some hr]
  revert hclock
  rcases Key.changes s.supplies.room body s.supplies.clock with ⟨_ | ⟨now, as⟩, clock⟩
  · exact fun hclock => of_records_eq rfl rfl hclock
  · intro hclock
    have hsame := r.sameOrigin_change now as
    revert hsame
    dsimp only
    rcases r.change now as with ⟨r', _ | f⟩ <;> intro hsame
    · dsimp only
      rw [session_told]
      exact ⟨.inr ⟨h, r, r', rfl, hr, rfl, fun _ => hsame⟩, hclock, fun _ => rfl⟩
    · exact ⟨.inr ⟨h, r, r', rfl, hr, rfl, fun _ => hsame⟩, hclock, fun _ => rfl⟩

theorem assign {r : Held} (hr : s.records[h]? = some r) (name value : Value) :
    Effect s (.assign h name value) (s.assign h r name value).session := by
  cases name with
  | text name =>
    rw [Session.assign]
    cases ht : Target.ofName name value with
    | error f => exact of_eq rfl rfl rfl
    | ok target =>
      have hsame : (Command.assign h (.text name) value).KeepsParts →
          r.SameOrigin (r.set target value (s.assignments + 1)).1 := by
        intro hkeeps
        obtain ⟨hpart, hparts⟩ := Target.ofName_eq_ok ht
        refine r.sameOrigin_set hpart (fun heq => ?_) value _
        obtain ⟨hname, ms, rfl⟩ := hparts heq
        exact hkeeps hname
      revert hsame
      dsimp only
      rcases r.set target value (s.assignments + 1) with ⟨r', _ | f⟩ <;> intro hsame <;>
        exact ⟨.inr ⟨h, r, r', rfl, hr, rfl, hsame⟩, fun hs => hs, fun _ => rfl⟩
  | _ => exact of_eq rfl rfl rfl

theorem seed : Effect s .seed s.seed.session := by
  rcases s.seed_cases with
    heq | ⟨supplies, hclock, ⟨f, heq⟩ | ⟨admin, search, -, hadmin, hsearch, heq⟩⟩ <;> rw [heq]
  · exact of_eq rfl rfl rfl
  · exact of_records_eq rfl rfl hclock
  · refine of_append [.ofKey admin, .ofKey search] (fun r hr => ?_) rfl hclock
      fun hnot => nomatch hnot
    rcases List.mem_pair.1 hr with rfl | rfl
    · exact .inr ⟨admin, hadmin, rfl⟩
    · exact .inr ⟨search, hsearch, rfl⟩

end Effect

theorem step_effect (s : Session) (c : Command) : Effect s c (s.step c).session := by
  cases c with
  | create body =>
    exact .give (fun hs => hs.kept (Key.create_clock body s.supplies))
      fun k => Key.wellFormed_of_create
  | createDefault which =>
    exact .give (fun hs => hs.kept (.inr (Key.createDefault_clock s.builder which s.supplies)))
      fun k => Key.wellFormed_of_createDefault
  | restore data => exact .give id fun k => Key.wellFormed_of_ofStored
  | update h body =>
    cases hr : s.records[h]? with
    | some r => exact .update body hr
    | none =>
      rw [step, onRecord, hr]
      exact .of_eq rfl rfl rfl
  | copy h =>
    refine .onRecord fun r hr => ?_
    cases r.copyFault? with
    | none =>
      refine .of_append [r] (fun r' hr' => ?_) rfl id fun _ => rfl
      exact .inl (List.mem_singleton.1 hr' ▸ List.mem_of_getElem? hr)
    | some f => exact .of_eq rfl rfl rfl
  | assign h name value => exact .onRecord fun r hr => .assign hr name value
  | insert h => exact .onRecord fun r _ => .of_store rfl (session_insert r)
  | replace h => exact .onRecord fun r _ => .of_store rfl (session_replace r)
  | get id => exact .lookUp id _
  | contains id => exact .lookUp id _
  | delete id => exact .of_store rfl (session_delete id)
  | seed => exact .seed
  | advance micros => exact .of_records_eq rfl rfl fun hs => hs.after_advance micros
  | newBuilder arguments =>
    rw [step]
    rcases capture arguments s.host with ⟨_ | builder, host⟩ <;> exact .of_eq rfl rfl rfl
  | size => exact .of_eq rfl rfl rfl
  | list => exact .of_eq rfl rfl rfl
  | setVariable name value => exact .of_eq rfl rfl rfl
  | clearSettings => exact .of_eq rfl rfl rfl

/-- **A command leaves the record under a number as it is**, unless it names the record as the one
to update or to assign to. -/
theorem step_frame {r : Held} (hr : s.records[h]? = some r) {c : Command} (hc : c.target? ≠ some h) :
    (s.step c).session.records[h]? = some r := by
  rcases (step_effect s c).records with ⟨extra, he, -⟩ | ⟨h', -, r', htarget, -, he, -⟩
  · rw [he, List.getElem?_append_left (List.getElem?_eq_some_iff.1 hr).1, hr]
  · have hne : h' ≠ h := fun heq => hc (heq ▸ htarget)
    rw [he, List.getElem?_set_ne hne, hr]

theorem utc_step (hs : s.supplies.clock.Utc) (c : Command) :
    (s.step c).session.supplies.clock.Utc :=
  (step_effect s c).clock hs

theorem utc_run (hs : s.supplies.clock.Utc) (cs : List Command) :
    (s.run cs).supplies.clock.Utc := by
  induction cs generalizing s with
  | nil => exact hs
  | cons c cs ih => exact ih (utc_step hs c)

/-! ## What a command leaves alone -/

theorem onRecord_leaves {P : Session → Prop} {f : Held → Outcome} (hs : P s)
    (hf : ∀ r, P (f r).session) : P (s.onRecord h f).session := by
  rw [onRecord]
  cases s.records[h]? with
  | none => exact hs
  | some r => exact hf r

theorem session_give (r : Except Failure Key) (events : Key → List Event) :
    ∃ records, (s.give r events).session = { s with records } := by
  cases r <;> exact ⟨_, rfl⟩

theorem session_assign (r : Held) (name value : Value) :
    ∃ records assignments, (s.assign h r name value).session = { s with records, assignments } := by
  cases name with
  | text name =>
    rw [assign]
    cases Target.ofName name value with
    | error e => exact ⟨_, _, rfl⟩
    | ok target =>
      dsimp only
      rcases r.set target value (s.assignments + 1) with ⟨r', _ | e⟩ <;> exact ⟨_, _, rfl⟩
  | _ => exact ⟨_, _, rfl⟩

theorem session_update (s : Session) (h : Handle) (body : Value) :
    ∃ records clock,
      (clock = s.supplies.clock ∨
        clock = (Key.changes s.supplies.room body s.supplies.clock).2) ∧
      (s.step (.update h body)).session =
        { s with records, supplies := { s.supplies with clock } } := by
  rw [step, onRecord]
  cases s.records[h]? with
  | none => exact ⟨_, _, .inl rfl, rfl⟩
  | some r =>
    dsimp only
    rcases Key.changes s.supplies.room body s.supplies.clock with ⟨_ | ⟨now, as⟩, clock⟩
    · exact ⟨_, _, .inr rfl, rfl⟩
    · dsimp only
      rcases r.change now as with ⟨r', _ | e⟩
      · dsimp only
        rw [session_told]
        exact ⟨_, _, .inr rfl, rfl⟩
      · exact ⟨_, _, .inr rfl, rfl⟩

theorem supplies_of_store {s' : Session} (h : ∃ store, s' = { s with store }) :
    s'.supplies = s.supplies := by
  obtain ⟨store, rfl⟩ := h
  rfl

theorem supplies_give {r : Except Failure Key} {events : Key → List Event} :
    (s.give r events).session.supplies = s.supplies := by
  obtain ⟨records, heq⟩ := session_give (s := s) r events
  rw [heq]

theorem supplies_update (s : Session) (h : Handle) (body : Value) :
    (s.step (.update h body)).session.supplies = s.supplies ∨
      (s.step (.update h body)).session.supplies =
        { s.supplies with clock := (Key.changes s.supplies.room body s.supplies.clock).2 } := by
  obtain ⟨records, clock, rfl | rfl, heq⟩ := s.session_update h body <;> rw [heq]
  · exact .inl rfl
  · exact .inr rfl

theorem clock_step {P : Clock → Prop} (hread : ∀ k, P k → P k.read.2) {c : Command}
    (hadvance : ∀ micros, c = .advance micros → ∀ k, P k → P (k.advance micros).2)
    (hs : P s.supplies.clock) : P (s.step c).session.supplies.clock := by
  have hkept : ∀ {k k' : Clock}, P k → k' = k ∨ k' = k.read.2 → P k' := by
    rintro k k' hk (rfl | rfl)
    · exact hk
    · exact hread k hk
  cases c with
  | create body =>
    rw [step_create, supplies_give]
    exact hkept hs (Key.create_clock body s.supplies)
  | createDefault which =>
    rw [step_createDefault, supplies_give]
    exact hkept hs (.inr (Key.createDefault_clock s.builder which s.supplies))
  | restore data =>
    rw [step, supplies_give]
    exact hs
  | update h body =>
    rcases s.supplies_update h body with heq | heq <;> rw [heq]
    · exact hs
    · exact hkept hs (Key.changes_clock _ body s.supplies.clock)
  | copy h =>
    refine onRecord_leaves (P := fun t => P t.supplies.clock) hs fun r => ?_
    cases r.copyFault? <;> exact hs
  | assign h name value =>
    refine onRecord_leaves (P := fun t => P t.supplies.clock) hs fun r => ?_
    obtain ⟨records, assignments, heq⟩ := session_assign (s := s) (h := h) r name value
    rw [heq]
    exact hs
  | insert h =>
    refine onRecord_leaves (P := fun t => P t.supplies.clock) hs fun r => ?_
    rw [supplies_of_store (session_insert r)]
    exact hs
  | replace h =>
    refine onRecord_leaves (P := fun t => P t.supplies.clock) hs fun r => ?_
    rw [supplies_of_store (session_replace r)]
    exact hs
  | get id =>
    rw [step, session_lookUp]
    exact hs
  | contains id =>
    rw [step, session_lookUp]
    exact hs
  | delete id =>
    rw [step, supplies_of_store (session_delete id)]
    exact hs
  | seed =>
    rw [step, seed]
    split
    · exact hs
    · have hadmin := hkept hs (.inr (Key.createDefault_clock s.builder .admin s.supplies))
      revert hadmin
      rcases Key.createDefault s.builder .admin s.supplies with ⟨_ | admin, rest⟩ <;> intro hadmin
      · exact hadmin
      · have hsearch := hkept hadmin (.inr (Key.createDefault_clock s.builder .search rest))
        revert hsearch
        dsimp only
        rcases Key.createDefault s.builder .search rest with ⟨_ | search, last⟩ <;>
          exact fun hsearch => hsearch
  | advance micros => exact hadvance micros rfl _ hs
  | newBuilder arguments =>
    rw [step]
    rcases capture arguments s.host with ⟨_ | builder, host⟩ <;> exact hs
  | size => exact hs
  | list => exact hs
  | setVariable name value => exact hs
  | clearSettings => exact hs

/-! ## A small session -/

/-- A session with some records at the first microsecond of year 1, with draws for one identifier
and room for nine levels. -/
def sample (records : List Held) : Session where
  records
  store := .empty
  supplies := ⟨.scripted [⟨0, 0⟩], .ofList [⟨0, by decide⟩] KeyId.length, ⟨9, 9⟩⟩
  builder := ⟨.testing, false, "INFO", false, "", ""⟩
  host := .start []
  assignments := 0

end Session

end ApiKeys
