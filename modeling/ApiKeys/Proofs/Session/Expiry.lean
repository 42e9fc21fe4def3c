import ApiKeys.Proofs.Expiration.Canonical
import ApiKeys.Proofs.Session.Agreement

/-!
# The boundary of an expiration

Two comparisons decide over an expiration: a request is refused if its expiration does not lie after
the reading of the clock, and a record has expired if its expiration does not lie after the time
that is asked about. Both draw one line (`Session.expiry_boundary`), wherever the clocks stand that
show the times, and a record that goes through the wire keeps it.
-/

namespace ApiKeys

/-! ## Records -/

namespace Held

variable {r : Held} {t u : Instant}

/-- The record holds an expiration, an instant or none, and nothing strays into its place. -/
structure Expires (r : Held) (e : Option Instant) : Prop where
  stray : r.stray? .expiresAt = none
  part : r.parts.contains .expiresAt = true
  expiresAt : r.key.expiresAt = e

theorem Expires.of_key {k : Key} {e : Option Instant} (h : k.expiresAt = e) :
    (ofKey k).Expires e := ⟨rfl, rfl, h⟩

theorem Expires.isExpired {e : Option Instant} (h : r.Expires e) (u : Instant) :
    r.isExpired u = .ok (r.key.isExpired u) := by
  rw [Held.isExpired, h.stray]
  dsimp only
  rw [if_pos h.part]

theorem Expires.never (h : r.Expires none) (u : Instant) : r.isExpired u = .ok false := by
  rw [h.isExpired, Key.isExpired, h.expiresAt]

theorem Expires.isExpired_eq (h : r.Expires (some t)) (u : Instant) :
    r.isExpired u = .ok (decide (t ≤ u)) := by
  rw [h.isExpired, Key.isExpired, h.expiresAt]

theorem Expires.not_expired_iff (h : r.Expires (some t)) : r.isExpired u = .ok false ↔ u < t := by
  rw [h.isExpired_eq, Except.ok.injEq, decide_eq_false_iff_not, Instant.lt_iff_not_le]

/-- The record has not expired before an instant and has from it on, whatever clock shows the time.
-/
def FlipsAt (r : Held) (t : Instant) : Prop :=
  ∀ u : Zoned, (u.instant < t → r.isExpired u.instant = .ok false) ∧
    (t ≤ u.instant → r.isExpired u.instant = .ok true)

theorem Expires.flipsAt (h : r.Expires (some t)) : r.FlipsAt t := by
  intro u
  rw [h.isExpired_eq]
  refine ⟨fun hlt => ?_, fun hle => by rw [decide_eq_true hle]⟩
  rw [decide_eq_false (Instant.lt_iff_not_le.1 hlt)]

end Held

/-! ## Requests -/

namespace Field

variable {room : Room} {now t : Instant} {absence : Field → Absence} {ms : Members} {text : Text}

theorem not_fault_expiresAt_iff (absence : Field → Absence)
    (hget : ms.get? Field.expiresAt.inputName = some (.text text))
    (ht : expirationInstant? text = .ok (some t)) :
    (∀ e, ¬ Fault room now absence ms .expiresAt e) ↔ now < t := by
  have hread : read room now .expiresAt (.text text) =
      if now < t then .ok (.expiresAt (some t))
      else .error (.rejected (.ofText .expiresAt text)) := by
    rw [read, checkExpiration, ht]
    dsimp only
    split <;> rfl
  simp only [fault_of_present_iff hget, hread]
  by_cases hnow : now < t
  · simp [hnow]
  · simp [hnow]

theorem exists_readAll_expiresAt_iff (hnull : ∀ f, absence f = .null → ∃ a, Takes now f .null a)
    (hget : ms.get? Field.expiresAt.inputName = some (.text text))
    (ht : expirationInstant? text = .ok (some t))
    (hothers : ∀ f : Field, f ≠ .expiresAt → ∀ e, ¬ Fault room now absence ms f e) :
    (∃ as, readAll room now absence ms Field.list = .ok as) ↔ now < t := by
  rw [exists_readAll_eq_ok_iff hnull, ← not_fault_expiresAt_iff absence hget ht]
  refine ⟨fun h => h .expiresAt, fun h f => ?_⟩
  by_cases hf : f = .expiresAt
  · rw [hf]
    exact h
  · exact hothers f hf

theorem Takes.expiresAt_eq {raw : Value} {e : Option Instant} (hraw : raw = .text text)
    (ht : expirationInstant? text = .ok (some t)) (h : Takes now .expiresAt raw (.expiresAt e)) :
    e = some t := by
  subst hraw
  cases h with
  | expiresAt hcheck =>
    obtain ⟨_, htext, he, -⟩ := checkExpiration_eq_some_iff.1 (hcheck ⟨0, 0⟩)
    cases htext
    exact Except.ok.inj (he.symm.trans ht)

end Field

/-! ## Sessions -/

namespace Session

variable {s : Session} {h : Handle} {k : Key} {now : Zoned} {ms : Members} {text : Text}
  {t : Instant}

/-- The record under a number has its expiration at an instant, and so has what is read of its wire
shape. -/
def ExpiresAt (s : Session) (h : Handle) (t : Instant) : Prop :=
  ∃ k k' ms, s.records[h]? = some (.ofKey k) ∧ (Held.ofKey k).FlipsAt t ∧
    (Held.ofKey k).wire = .ok ms ∧ Key.ofStored (.object ms) = .ok k' ∧ (Held.ofKey k').FlipsAt t

theorem ExpiresAt.of_wellFormed (hr : s.records[h]? = some (.ofKey k)) (hk : k.WellFormed)
    (he : k.expiresAt = some t) : s.ExpiresAt h t :=
  ⟨k, k, k.shape, hr, (Held.Expires.of_key he).flipsAt, hk.held_wire, hk.ofStored_shape,
    (Held.Expires.of_key he).flipsAt⟩

theorem created_iff (hread : s.supplies.clock.read.1 = .ok now)
    (hnow : now.instant.Representable) {id : Text}
    (hid : (KeyId.generate s.supplies.draws).1 = some id) :
    (∃ a, (s.step (.create (.object ms))).answer = .ok a) ↔
      ∃ as, Field.readAll s.supplies.room now.instant Field.absentFromCreation ms Field.list =
        .ok as := by
  rw [answer_create, Key.create_of_read hread]
  cases Field.readAll s.supplies.room now.instant Field.absentFromCreation ms Field.list with
  | error e => simp [Except.map]
  | ok as => simp [Key.build_of_representable hnow as hid, Except.map]

theorem updated_iff (hr : s.records[h]? = some (.ofKey k))
    (hread : s.supplies.clock.read.1 = .ok now) :
    (∃ a, (s.step (.update h (.object ms))).answer = .ok a) ↔
      ∃ as, Field.readAll s.supplies.room now.instant Field.absentFromUpdate ms Field.list =
        .ok as := by
  rw [answer_update hr (Held.changeable_ofKey k), Key.changes_of_read hread]
  cases Field.readAll s.supplies.room now.instant Field.absentFromUpdate ms Field.list <;>
    simp [Except.map]

theorem expiresAt_create (hread : s.supplies.clock.read.1 = .ok now)
    (hms : ms.get? Field.expiresAt.inputName = some (.text text))
    (ht : expirationInstant? text = .ok (some t)) {a : Answer}
    (ha : (s.step (.create (.object ms))).answer = .ok a) :
    (s.step (.create (.object ms))).session.ExpiresAt s.records.length t := by
  obtain ⟨k, -, hrecord, htakes⟩ := create_eq_ok hread ha
  rw [step_create] at ha
  obtain ⟨k', hk', -, hrecord'⟩ := give_eq_ok ha
  have hsame : Held.ofKey k = .ofKey k' := Option.some.inj (hrecord.symm.trans hrecord')
  obtain rfl : k = k' := congrArg Held.key hsame
  refine .of_wellFormed hrecord (Key.wellFormed_of_create hk') ?_
  exact Field.Takes.expiresAt_eq (by rw [hms]; rfl) ht (htakes .expiresAt)

theorem expiresAt_update (hr : s.records[h]? = some (.ofKey k)) (hk : k.WellFormed)
    (hread : s.supplies.clock.read.1 = .ok now) (hnow : now.instant.Representable)
    (hms : ms.get? Field.expiresAt.inputName = some (.text text))
    (ht : expirationInstant? text = .ok (some t)) {a : Answer}
    (ha : (s.step (.update h (.object ms))).answer = .ok a) :
    (s.step (.update h (.object ms))).session.ExpiresAt h t := by
  obtain ⟨ms', now', as, hbody, hread', hall, -, hrecord⟩ := step_update_eq_ok hr ha
  obtain rfl : ms = ms' := Value.object.inj hbody
  obtain rfl : now' = now := Except.ok.inj (hread'.symm.trans hread)
  refine .of_wellFormed hrecord (hk.change_of_representable hnow hall) ?_
  exact Field.Takes.expiresAt_eq rfl ht (Field.takes_held_of_readAll hall hms k)

/-- **What may be written and what has expired complement each other.** At a reading of any clock
with a date in UTC, a request with a text that names an instant, and with nothing else wrong,
creates or changes a record just when a record with that expiration has not expired at the reading.
The record then expires at this instant and no other, whatever clock shows the time, and so does the
record that is read of its wire shape. A record without an expiration never expires. -/
theorem expiry_boundary (hr : s.records[h]? = some (.ofKey k))
    (hread : s.supplies.clock.read.1 = .ok now) (hnow : now.instant.Representable) {id : Text}
    (hid : (KeyId.generate s.supplies.draws).1 = some id)
    (ht : expirationInstant? text = .ok (some t))
    (hms : ms.get? Field.expiresAt.inputName = some (.text text)) :
    let created := s.step (.create (.object ms))
    let updated := s.step (.update h (.object ms))
    (∀ r : Held, r.Expires (some t) →
      ((∀ f : Field, f ≠ .expiresAt → ∀ e,
          ¬ Field.Fault s.supplies.room now.instant Field.absentFromCreation ms f e) →
        ((∃ a, created.answer = .ok a) ↔ r.isExpired now.instant = .ok false)) ∧
      ((∀ f : Field, f ≠ .expiresAt → ∀ e,
          ¬ Field.Fault s.supplies.room now.instant Field.absentFromUpdate ms f e) →
        ((∃ a, updated.answer = .ok a) ↔ r.isExpired now.instant = .ok false))) ∧
    (∀ a, created.answer = .ok a → created.session.ExpiresAt s.records.length t) ∧
    (k.WellFormed → ∀ a, updated.answer = .ok a → updated.session.ExpiresAt h t) ∧
    ∀ r : Held, r.Expires none → ∀ u : Zoned, r.isExpired u.instant = .ok false := by
  intro created updated
  refine ⟨fun r hexpires => ⟨fun hothers => ?_, fun hothers => ?_⟩,
    fun a => expiresAt_create hread hms ht,
    fun hk a => expiresAt_update hr hk hread hnow hms ht,
    fun r hexpires u => hexpires.never u.instant⟩
  · rw [created_iff hread hnow hid, hexpires.not_expired_iff]
    exact Field.exists_readAll_expiresAt_iff
      (fun _ => Field.takes_null_of_absentFromCreation) hms ht hothers
  · rw [updated_iff hr hread, hexpires.not_expired_iff]
    exact Field.exists_readAll_expiresAt_iff (fun f hf => by cases hf) hms ht hothers

/-- A clock an hour ahead of UTC shows the new year. An expiration one microsecond later may be
written, in UTC, and one at that very instant may not, shown by a clock half an hour ahead. -/
theorem expiry_boundary_new_year :
    let k : Key := .blank (List.replicate KeyId.length (.char 'a')) ⟨0⟩
    let now : Zoned := ⟨Civil.toMicros ⟨⟨2030, 1, 1⟩, 0, 30, 0, 0⟩, 3600⟩
    let s : Session :=
      { sample [.ofKey k] with supplies := ⟨.scripted [now], .ofList [0] KeyId.length, ⟨0, 0⟩⟩ }
    let request (text : Text) : Members :=
      [("actions", .list []), ("indexes", .list []), ("expiresAt", .text text)]
    let later : Text := "2029-12-31T23:30:00.000001Z"
    let same : Text := "2030-01-01T00:00:00+00:30"
    (∃ a, (s.step (.create (.object (request later)))).answer = .ok a) ∧
      (s.step (.create (.object (request later)))).session.ExpiresAt 1 ⟨now.instant.micros + 1⟩ ∧
      (∃ a, (s.step (.update 0 (.object (request later)))).answer = .ok a) ∧
      (s.step (.update 0 (.object (request later)))).session.ExpiresAt 0 ⟨now.instant.micros + 1⟩ ∧
      (¬ ∃ a, (s.step (.create (.object (request same)))).answer = .ok a) ∧
      ¬ ∃ a, (s.step (.update 0 (.object (request same)))).answer = .ok a := by
  intro k now s request later same
  have hdraws : (KeyId.generate s.supplies.draws).1.isSome = true := by decide +kernel
  obtain ⟨id, hid⟩ := Option.isSome_iff_exists.1 hdraws
  have hnow : now.instant.Representable := by decide
  have hk : k.WellFormed := ⟨by decide, fun e he => (nomatch he), by decide, by decide⟩
  have hlater : expirationInstant? later = .ok (some ⟨now.instant.micros + 1⟩) :=
    eq_ok_of_toOption (by decide +kernel)
  have hsame : expirationInstant? same = .ok (some now.instant) :=
    eq_ok_of_toOption (by decide +kernel)
  have hothers : ∀ {absence : Field → Field.Absence} (text : Text), absence .description ≠ .refuse →
      ∀ f : Field, f ≠ .expiresAt → ∀ e,
        ¬ Field.Fault s.supplies.room now.instant absence (request text) f e := by
    intro absence text habsence f hf e hfault
    cases f with
    | description => exact habsence ((Field.fault_of_absent_iff rfl).1 hfault).1
    | actions => exact nomatch (Field.fault_of_present_iff rfl).1 hfault
    | indexes => exact nomatch (Field.fault_of_present_iff rfl).1 hfault
    | expiresAt => exact hf rfl
  have hcreation : Field.absentFromCreation .description ≠ .refuse := by decide
  have hupdate : Field.absentFromUpdate .description ≠ .refuse := by decide
  have hget : ∀ text, (request text).get? Field.expiresAt.inputName = some (.text text) :=
    fun _ => rfl
  obtain ⟨hboundary, hcreated, hupdated, -⟩ := expiry_boundary (s := s) (h := 0) rfl rfl hnow hid
    hlater (hget later)
  obtain ⟨hboundary', -⟩ := expiry_boundary (s := s) (h := 0) rfl rfl hnow hid hsame (hget same)
  have hkey : ∀ t, (Held.ofKey { k with expiresAt := some t }).Expires (some t) :=
    fun t => .of_key rfl
  have hahead := (hkey ⟨now.instant.micros + 1⟩).not_expired_iff.2
    (show now.instant < ⟨now.instant.micros + 1⟩ by decide)
  have hreached : ¬ now.instant < now.instant := by decide
  obtain ⟨a, ha⟩ := ((hboundary _ (hkey _)).1 (hothers later hcreation)).2 hahead
  obtain ⟨b, hb⟩ := ((hboundary _ (hkey _)).2 (hothers later hupdate)).2 hahead
  refine ⟨⟨a, ha⟩, hcreated a ha, ⟨b, hb⟩, hupdated hk b hb, ?_, ?_⟩
  · rw [(hboundary' _ (hkey _)).1 (hothers same hcreation), (hkey _).not_expired_iff]
    exact hreached
  · rw [(hboundary' _ (hkey _)).2 (hothers same hupdate), (hkey _).not_expired_iff]
    exact hreached

end Session

end ApiKeys
