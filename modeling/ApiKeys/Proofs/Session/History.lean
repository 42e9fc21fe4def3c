import ApiKeys.Proofs.Key.RoundTrip
import ApiKeys.Proofs.Session.Step

/-!
# The history of a record

A record is followed through a session. Turn by turn a command is given, the clock is replaced, or
the record gives way to a copy of itself or to what its wire shape is read as. Of all this only
updates that succeed matter to the record (`Followed.Holds.step`): it is what its last changes made
of it, field by field, and its time of change is the latest of their readings (`Became`). The main
statement is `history`, for records from the command that built them on.
-/

namespace ApiKeys

/-- An update that succeeded: when its clock was read, and the members of its request. -/
structure Change where
  now : Instant
  members : Members

/-- The last of some changes that supplies a field, as its reading and the value that it supplies.
-/
def Field.lastIn (f : Field) (changes : List Change) : Option (Instant × Value) :=
  (changes.filterMap fun c => (c.members.get? f.inputName).map fun raw => (c.now, raw)).getLast?

/-- What a record is after some changes. Each field is what the last change that supplies it was
read as, and without one as it was; identifier and time of creation are as they were; the time of
change is the latest of what it was and of the readings. -/
structure Became (k₀ : Key) (changes : List Change) (k : Key) : Prop where
  id : k.id = k₀.id
  createdAt : k.createdAt = k₀.createdAt
  field : ∀ f : Field, match f.lastIn changes with
    | some (now, raw) => ∀ room, Field.read room now f raw = .ok (k.held f)
    | none => k.held f = k₀.held f
  updatedAt : k.updatedAt.micros = (changes.map fun c => c.now.micros).foldl max k₀.updatedAt.micros

/-- What may come next where a record is followed. -/
inductive Turn where
  | command (c : Command)
  /-- The clock of the session is replaced by another one. -/
  | clock (c : Clock)
  /-- A copy of the record takes its place. -/
  | copy
  /-- What the wire shape of the record is read as takes its place. -/
  | restore

/-- The turn assigns nothing past the requests, and brings no clock but one in UTC. -/
def Turn.Plain : Turn → Prop
  | .command (.assign ..) => False
  | .clock c => c.Utc
  | _ => True

/-- A session and the number of the record in it that is followed. -/
structure Followed where
  session : Session
  handle : Handle

namespace Followed

/-- The record that is followed. -/
def record? (p : Followed) : Option Held := p.session.records[p.handle]?

/-- After a command that gives a record, that record is followed. -/
def replace (p : Followed) (c : Command) : Followed :=
  match (p.session.step c).answer with
  | .ok (.record h) => ⟨(p.session.step c).session, h⟩
  | _ => ⟨(p.session.step c).session, p.handle⟩

/-- What one turn does. -/
def step (p : Followed) : Turn → Followed
  | .command c => ⟨(p.session.step c).session, p.handle⟩
  | .clock c => ⟨p.session.setClock c, p.handle⟩
  | .copy => p.replace (.copy p.handle)
  | .restore =>
    match p.record?.map Held.wire with
    | some (.ok ms) => p.replace (.restore (.object ms))
    | _ => p

/-- What some turns do, one after the other. -/
def run (p : Followed) (turns : List Turn) : Followed := turns.foldl step p

/-- The change that a turn makes: that of an update of the record, if it succeeds. -/
def change? (p : Followed) : Turn → Option Change
  | .command (.update h (.object ms)) =>
    if h = p.handle then
      match (p.session.step (.update h (.object ms))).answer, p.session.supplies.clock.read.1 with
      | .ok _, .ok now => some ⟨now.instant, ms⟩
      | _, _ => none
    else none
  | _ => none

/-- The changes that some turns make, in order. -/
def changes (p : Followed) : List Turn → List Change
  | [] => []
  | t :: ts => (p.change? t).toList ++ (p.step t).changes ts

end Followed

/-! ## Changes -/

theorem Field.lastIn_append (f : Field) (cs ds : List Change) :
    f.lastIn (cs ++ ds) = (f.lastIn ds).or (f.lastIn cs) := by
  rw [lastIn, List.filterMap_append, List.getLast?_append]
  rfl

theorem le_foldl_max (xs : List Int) (m : Int) : m ≤ xs.foldl max m := by
  induction xs generalizing m with
  | nil => exact le_refl m
  | cons x xs ih => exact (le_max_left m x).trans (ih (max m x))

theorem Instant.micros_later (a b : Instant) : (a.later b).micros = max b.micros a.micros := by
  rw [later]
  split
  · next h => exact (max_eq_left h).symm
  · next h => exact (max_eq_right (le_of_lt (not_le.1 h))).symm

namespace Became

variable {a b c : Key} {cs ds : List Change}

theorem refl (k : Key) : Became k [] k where
  id := rfl
  createdAt := rfl
  field := fun _ => rfl
  updatedAt := rfl

theorem trans (hb : Became a cs b) (hc : Became b ds c) : Became a (cs ++ ds) c where
  id := hc.id.trans hb.id
  createdAt := hc.createdAt.trans hb.createdAt
  field := by
    intro f
    have hbf := hb.field f
    have hcf := hc.field f
    rw [Field.lastIn_append]
    cases hds : f.lastIn ds with
    | some last =>
      rw [hds] at hcf
      exact hcf
    | none =>
      rw [hds] at hcf
      rw [Option.none_or]
      cases hcs : f.lastIn cs with
      | some last =>
        rw [hcs] at hbf
        dsimp only at hcf hbf ⊢
        rw [hcf]
        exact hbf
      | none =>
        rw [hcs] at hbf
        exact hcf.trans hbf
  updatedAt := by rw [hc.updatedAt, hb.updatedAt, List.map_append, List.foldl_append]

theorem unique (hb : Became a cs b) (hc : Became a cs c) : b = c := by
  refine Key.ext_held (hb.id.trans hc.id.symm) (fun f => ?_) (hb.createdAt.trans hc.createdAt.symm)
    (congrArg Instant.mk (hb.updatedAt.trans hc.updatedAt.symm))
  have hbf := hb.field f
  have hcf := hc.field f
  cases hcs : f.lastIn cs with
  | some last =>
    rw [hcs] at hbf hcf
    exact Except.ok.inj ((hbf ⟨0, 0⟩).symm.trans (hcf ⟨0, 0⟩))
  | none =>
    rw [hcs] at hbf hcf
    exact hbf.trans hcf.symm

theorem updatedAt_le (h : Became a cs b) : a.updatedAt ≤ b.updatedAt := by
  show a.updatedAt.micros ≤ b.updatedAt.micros
  rw [h.updatedAt]
  exact le_foldl_max _ _

theorem change {room : Room} {k : Key} {now : Zoned} {ms : Members} {as : List Assignment}
    (hall : Field.readAll room now.instant Field.absentFromUpdate ms Field.list = .ok as) :
    Became k [⟨now.instant, ms⟩] (k.change now as) where
  id := Key.id_assignAll k as
  createdAt := Key.createdAt_assignAll k as
  field := by
    intro f
    rw [Key.held_change]
    cases hget : ms.get? f.inputName with
    | some raw =>
      have hlast : f.lastIn [⟨now.instant, ms⟩] = some (now.instant, raw) := by
        simp [Field.lastIn, hget]
      rw [hlast]
      exact fun _ => Field.read_eq_ok_iff.2 (Field.takes_held_of_readAll hall hget k)
    | none =>
      have hlast : f.lastIn [⟨now.instant, ms⟩] = none := by simp [Field.lastIn, hget]
      rw [hlast]
      exact Field.held_of_readAll_of_skip hall hget rfl k
  updatedAt := Instant.micros_later now.instant k.updatedAt

end Became

/-! ## Turns -/

namespace Followed

/-- The record that is followed is `k`, as the library gives records, and the clock shows UTC. -/
structure Holds (p : Followed) (k : Key) : Prop where
  record : p.record? = some (.ofKey k)
  wellFormed : k.WellFormed
  clock : p.session.supplies.clock.Utc

variable {p : Followed} {k : Key}

theorem step_copy (hr : p.record? = some (.ofKey k)) :
    p.step .copy = ⟨p.session.add (.ofKey k), p.session.records.length⟩ := by
  rw [step, replace, Session.step, Session.onRecord_of_some hr]
  rfl

theorem step_restore (hr : p.record? = some (.ofKey k)) (hk : k.WellFormed) :
    p.step .restore = ⟨p.session.add (.ofKey k), p.session.records.length⟩ := by
  rw [step, hr, Option.map_some, hk.held_wire]
  dsimp only
  rw [replace, Session.step, hk.ofStored_shape]
  rfl

theorem Holds.add (hp : p.Holds k) :
    Holds ⟨p.session.add (.ofKey k), p.session.records.length⟩ k where
  record := List.getElem?_concat_length
  wellFormed := hp.wellFormed
  clock := hp.clock

theorem change?_of_target {c : Command} (hc : c.target? ≠ some p.handle) :
    p.change? (.command c) = none := by
  cases c with
  | update h body =>
    cases body with
    | object ms => rw [change?, if_neg fun hh => hc (congrArg some hh)]
    | _ => rfl
  | _ => rfl

/-- **An update changes the record as its ledger says**: by its request if it succeeds, and not at
all if it fails. -/
theorem Holds.update (hp : p.Holds k) (body : Value) :
    ∃ k', (p.step (.command (.update p.handle body))).Holds k' ∧
      Became k (p.change? (.command (.update p.handle body))).toList k' := by
  have hclock := Session.utc_step hp.clock (.update p.handle body)
  cases ha : (p.session.step (.update p.handle body)).answer with
  | error e =>
    have hrecords := Session.records_update_of_error hp.record ha
    have hnone : p.change? (.command (.update p.handle body)) = none := by
      cases body with
      | object ms => rw [change?, if_pos rfl, ha]
      | _ => rfl
    refine ⟨k, ⟨?_, hp.wellFormed, hclock⟩, ?_⟩
    · rw [record?, step, hrecords]
      exact hp.record
    · rw [hnone]
      exact .refl k
  | ok a =>
    obtain ⟨ms, now, as, rfl, hread, hall, -, hrecord⟩ := Session.step_update_eq_ok hp.record ha
    have hsome : p.change? (.command (.update p.handle (.object ms))) = some ⟨now.instant, ms⟩ := by
      rw [change?, if_pos rfl, ha, hread]
    refine ⟨k.change now as, ⟨hrecord, ?_, hclock⟩, ?_⟩
    · exact hp.wellFormed.change (hp.clock.read hread) hall
    · rw [hsome]
      exact .change hall

/-- **One turn** leaves a record that is what the change of the turn, if there is one, made of it.
-/
theorem Holds.step (hp : p.Holds k) {t : Turn} (ht : t.Plain) :
    ∃ k', (p.step t).Holds k' ∧ Became k (p.change? t).toList k' := by
  cases t with
  | command c =>
    by_cases hc : c.target? = some p.handle
    · cases c with
      | update h body =>
        obtain rfl := Option.some.inj hc
        exact hp.update body
      | assign h name value => exact absurd ht id
      | _ => cases hc
    · refine ⟨k, ⟨Session.step_frame hp.record hc, hp.wellFormed, Session.utc_step hp.clock c⟩, ?_⟩
      rw [change?_of_target hc]
      exact .refl k
  | clock c => exact ⟨k, ⟨hp.record, hp.wellFormed, ht⟩, .refl k⟩
  | copy =>
    rw [step_copy hp.record]
    exact ⟨k, hp.add, .refl k⟩
  | restore =>
    rw [step_restore hp.record hp.wellFormed]
    exact ⟨k, hp.add, .refl k⟩

theorem Holds.run (hp : p.Holds k) {turns : List Turn} (hturns : ∀ t ∈ turns, t.Plain) :
    ∃ k', (p.run turns).Holds k' ∧ Became k (p.changes turns) k' := by
  induction turns generalizing p k with
  | nil => exact ⟨k, hp, .refl k⟩
  | cons t ts ih =>
    obtain ⟨ht, hts⟩ := List.forall_mem_cons.1 hturns
    obtain ⟨k₁, hstep, hfirst⟩ := hp.step ht
    obtain ⟨k₂, hrun, hrest⟩ := ih hstep hts
    exact ⟨k₂, hrun, hfirst.trans hrest⟩

theorem run_append (p : Followed) (ts us : List Turn) : p.run (ts ++ us) = (p.run ts).run us :=
  List.foldl_append

theorem changes_append (p : Followed) (ts us : List Turn) :
    p.changes (ts ++ us) = p.changes ts ++ (p.run ts).changes us := by
  induction ts generalizing p with
  | nil => rfl
  | cons t ts ih =>
    rw [List.cons_append, changes, ih, changes, List.append_assoc]
    rfl

end Followed

/-! ## From the command that built a record on -/

/-- The command builds a record, from a request or without one. -/
def Command.Builds : Command → Prop
  | .create _ | .createDefault _ => True
  | _ => False

namespace Session

variable {s : Session} {c : Command} {h : Handle}

theorem build_of_answer (hc : c.Builds) (hanswer : (s.step c).answer = .ok (.record h)) :
    ∃ k now parts, (s.step c).session.records[h]? = some (.ofKey k) ∧
      s.supplies.clock.read.1 = .ok now ∧ (∀ a ∈ parts, a.field? ≠ none) ∧
      (Key.build now parts s.supplies.draws).1 = .ok k ∧ k.WellFormed := by
  cases c with
  | create body =>
    rw [step_create] at hanswer ⊢
    obtain ⟨k, hk, ha, hrecord⟩ := give_eq_ok hanswer
    obtain rfl := Answer.record.inj ha
    obtain ⟨ms, now, parts, -, hread, hall, hbuild⟩ := Key.create_eq_ok hk
    exact ⟨k, now, parts, hrecord, hread, Field.field?_ne_none_of_readAll hall, hbuild,
      Key.wellFormed_of_create hk⟩
  | createDefault which =>
    rw [step_createDefault] at hanswer ⊢
    obtain ⟨k, hk, ha, hrecord⟩ := give_eq_ok hanswer
    obtain rfl := Answer.record.inj ha
    obtain ⟨now, hread, hbuild⟩ := Key.createDefault_eq_ok hk
    exact ⟨k, now, _, hrecord, hread, which.field?_parts s.builder, hbuild,
      Key.wellFormed_of_createDefault hk⟩
  | _ => exact hc.elim

theorem holds_of_build (hc : c.Builds) (hclock : s.supplies.clock.Utc)
    (hanswer : (s.step c).answer = .ok (.record h)) :
    ∃ k now, s.supplies.clock.read.1 = .ok now ∧ k.createdAt = now.instant ∧
      k.updatedAt = now.instant ∧ (⟨(s.step c).session, h⟩ : Followed).Holds k := by
  obtain ⟨k, now, parts, hrecord, hread, hparts, hbuild, hwell⟩ := build_of_answer hc hanswer
  refine ⟨k, now, hread, ?_, ?_, hrecord, hwell, utc_step hclock c⟩
  · obtain ⟨id, t, -, ht, rfl⟩ := Key.build_eq_ok hbuild
    rw [Key.createdAt_assignAll]
    exact (Zoned.utc?_eq_some_iff.1 ht).1
  · obtain ⟨id, t, -, ht, rfl⟩ := Key.build_eq_ok hbuild
    rw [Key.updatedAt_assignAll _ hparts]
    exact (Zoned.utc?_eq_some_iff.1 ht).1

/-- **The history of a record.** A record that was built at a reading of a UTC clock is, after any
turns, what the successful updates among them made of it: its identifier and time of creation are
those it was built with, each field is what the last of these updates that supplies it was read as,
or what it was built with, and the time of change is the latest of the readings, so it does not lie
before the creation and never goes back. An update that fails leaves the record as it is. -/
theorem history (hc : c.Builds) (hclock : s.supplies.clock.Utc)
    (hanswer : (s.step c).answer = .ok (.record h)) :
    let p : Followed := ⟨(s.step c).session, h⟩
    ∃ k₀ now, s.supplies.clock.read.1 = .ok now ∧ k₀.createdAt = now.instant ∧
      k₀.updatedAt = now.instant ∧ p.record? = some (.ofKey k₀) ∧
      ∀ before after : List Turn, (∀ t ∈ before ++ after, t.Plain) → ∃ k₁ k₂,
        (p.run before).record? = some (.ofKey k₁) ∧
        (p.run (before ++ after)).record? = some (.ofKey k₂) ∧
        Became k₀ (p.changes before) k₁ ∧ Became k₀ (p.changes (before ++ after)) k₂ ∧
        k₁.createdAt ≤ k₁.updatedAt ∧ k₁.updatedAt ≤ k₂.updatedAt ∧
        ∀ body e,
          ((p.run before).session.step (.update (p.run before).handle body)).answer = .error e →
          ((p.run before).step (.command (.update (p.run before).handle body))).record? =
            some (.ofKey k₁) := by
  intro p
  obtain ⟨k₀, now, hread, hcreated, hupdated, hp⟩ := holds_of_build hc hclock hanswer
  refine ⟨k₀, now, hread, hcreated, hupdated, hp.record, fun before after hturns => ?_⟩
  obtain ⟨k₁, h₁, hfirst⟩ := hp.run fun t ht => hturns t (List.mem_append_left after ht)
  obtain ⟨k₂, h₂, hrest⟩ := h₁.run fun t ht => hturns t (List.mem_append_right before ht)
  rw [← Followed.run_append] at h₂
  refine ⟨k₁, k₂, h₁.record, h₂.record, hfirst, ?_, ?_, hrest.updatedAt_le, fun body e he => ?_⟩
  · rw [Followed.changes_append]
    exact hfirst.trans hrest
  · rw [hfirst.createdAt, hcreated, ← hupdated]
    exact hfirst.updatedAt_le
  · rw [Followed.record?, Followed.step, records_update_of_error h₁.record he]
    exact h₁.record

/-- A default record that loses its actions, is restored, and is then updated in vain by a clock
that has no more readings. -/
theorem history_default :
    let s := sample []
    let p : Followed := ⟨(s.step (.createDefault .admin)).session, 0⟩
    let turns : List Turn := [.clock (.scripted [⟨5, 0⟩]),
      .command (.update 0 (.object [("actions", .list [])])), .restore, .clock (.scripted []),
      .command (.update 1 (.object [("indexes", .list [])]))]
    ∃ k₀ k, p.record? = some (.ofKey k₀) ∧ (p.run turns).record? = some (.ofKey k) ∧
      Became k₀ (p.changes turns) k := by
  intro s p turns
  have hutc : ∀ micros, micros < Civil.limit → (⟨micros, 0⟩ : Zoned).Utc := fun _ h => ⟨rfl, h⟩
  have hclock : s.supplies.clock.Utc := by
    intro z hz
    obtain rfl := List.mem_singleton.1 hz
    exact hutc 0 (by decide)
  have hsome : (s.step (.createDefault .admin)).answer.toOption = some (.record 0) := by
    decide +kernel
  have hanswer : (s.step (.createDefault .admin)).answer = .ok (.record 0) := by
    cases ha : (s.step (.createDefault .admin)).answer with
    | error f => rw [ha] at hsome; cases hsome
    | ok a => rw [ha] at hsome; exact congrArg Except.ok (Option.some.inj hsome)
  have hplain : ∀ t ∈ turns ++ [], t.Plain := by
    intro t ht
    fin_cases ht
    · intro z hz
      obtain rfl := List.mem_singleton.1 hz
      exact hutc 5 (by decide)
    · trivial
    · trivial
    · exact fun z hz => nomatch hz
    · trivial
  obtain ⟨k₀, now, -, -, -, hrecord, hall⟩ :=
    history (c := .createDefault .admin) trivial hclock hanswer
  obtain ⟨k, -, hk, -, hbecame, -⟩ := hall turns [] hplain
  exact ⟨k₀, k, hrecord, hk, hbecame⟩

end Session

end ApiKeys
