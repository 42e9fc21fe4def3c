import ApiKeys.Proofs.Session.Step

/-!
# Creating and updating judge alike

A request for a new record and the same request for a change of a record are judged by one rule, at
one reading of the clock; they differ only in what an absent field means. So each fails with its
first fault (`answer_create_eq_error_iff`, `answer_update_eq_error_iff`), and on a request that
holds all fields but perhaps the description the two fail alike or give the same
(`create_update_agree`).
-/

namespace ApiKeys

/-! ## What an absent field means -/

namespace Field

theorem takes_null_of_absentFromCreation {now : Instant} {f : Field}
    (h : absentFromCreation f = .null) : ∃ a, Takes now f .null a := by
  cases f with
  | description => exact ⟨_, .noDescription⟩
  | _ => cases h

theorem valueFor_creation (ms : Members) (f : Field) :
    valueFor absentFromCreation ms f = .ok (some ((ms.get? f.inputName).getD .null)) ∨
      ∃ e, valueFor absentFromCreation ms f = .error e := by
  cases hget : ms.get? f.inputName with
  | some raw => exact .inl (valueFor_of_present hget)
  | none =>
    rw [valueFor_of_absent hget]
    cases f with
    | description => exact .inl rfl
    | _ => exact .inr ⟨_, rfl⟩

theorem fault_creation_iff_update {room : Room} {now : Instant} {ms : Members} {f : Field}
    {e : Failure}
    (hpresent : f ≠ .description → ms.get? f.inputName ≠ none) :
    Fault room now absentFromCreation ms f e ↔ Fault room now absentFromUpdate ms f e := by
  cases hget : ms.get? f.inputName with
  | some raw => rw [fault_of_present_iff hget, fault_of_present_iff hget]
  | none =>
    have hf : f = .description := by
      by_contra hne
      exact hpresent hne hget
    rw [fault_of_absent_iff hget, fault_of_absent_iff hget, hf]
    simp [absentFromCreation, absentFromUpdate]

theorem firstFault_creation_iff_update {room : Room} {now : Instant} {ms : Members} {e : Failure}
    (hpresent : ∀ f : Field, f ≠ .description → ms.get? f.inputName ≠ none) :
    FirstFault room now absentFromCreation ms e ↔ FirstFault room now absentFromUpdate ms e := by
  simp only [FirstFault, fault_creation_iff_update (hpresent _)]

theorem FirstFault.get?_of_invalid {room : Room} {now : Instant} {absence : Field → Absence}
    {ms : Members} {f : Field} {raw : Value} {shown : Text}
    (h : FirstFault room now absence ms (.rejected (.invalid f raw shown))) :
    ms.get? f.inputName = some raw ∧
      ∃ t, raw.display room = .ok t ∧ shown = Text.ofChars t := by
  obtain ⟨before, g, after, -, -, hfault⟩ := h
  generalize he : Failure.rejected (.invalid f raw shown) = e at hfault
  cases hfault with
  | @invalid raw' hsome =>
    rcases refusal_cases room g raw' with ⟨t, ht, heq⟩ | ⟨u, -, heq⟩
    · cases he.trans heq
      exact ⟨hsome, t, ht, rfl⟩
    · cases he.trans heq
  | _ => cases he

end Field

namespace Session

variable {s : Session} {h : Handle} {k : Key} {now : Zoned} {ms : Members}

/-! ## Creating -/

theorem answer_create (s : Session) (body : Value) : (s.step (.create body)).answer =
    (Key.create body s.supplies).1.map fun _ => .record s.records.length := by
  rw [step_create]
  cases (Key.create body s.supplies).1 <;> rfl

theorem answer_create_eq_error_iff (hread : s.supplies.clock.read.1 = .ok now) (hnow : now.Utc)
    {id : Text} (hid : (KeyId.generate s.supplies.draws).1 = some id) {e : Failure} :
    (s.step (.create (.object ms))).answer = .error e ↔
      Field.FirstFault s.supplies.room now.instant Field.absentFromCreation ms e := by
  rw [answer_create, Key.create_of_read hread, ← Field.readAll_eq_error_iff
    (fun _ => Field.takes_null_of_absentFromCreation)]
  cases Field.readAll s.supplies.room now.instant Field.absentFromCreation ms Field.list with
  | error e' => simp [Except.map]
  | ok parts => simp [Key.build_of_utc hnow parts hid, Except.map]

theorem create_eq_ok (hread : s.supplies.clock.read.1 = .ok now) {a : Answer}
    (ha : (s.step (.create (.object ms))).answer = .ok a) :
    ∃ k, a = .record s.records.length ∧
      (s.step (.create (.object ms))).session.records[s.records.length]? = some (.ofKey k) ∧
      ∀ f : Field, Field.Takes now.instant f ((ms.get? f.inputName).getD .null) (k.held f) := by
  rw [step_create] at ha ⊢
  obtain ⟨k, hk, rfl, hrecord⟩ := give_eq_ok ha
  refine ⟨k, rfl, hrecord, fun f => ?_⟩
  rw [Key.create_of_read hread] at hk
  cases hall : Field.readAll s.supplies.room now.instant Field.absentFromCreation ms Field.list with
  | error e => simp [hall] at hk
  | ok parts =>
    rw [hall] at hk
    obtain ⟨id, t, -, -, rfl⟩ := Key.build_eq_ok hk
    rcases Field.held_of_readAll hall (.blank id t) f with ⟨raw, hv, htakes⟩ | ⟨hv, -⟩
    · rcases Field.valueFor_creation ms f with hc | ⟨e, hc⟩
      · rw [hc] at hv
        rw [Option.some.inj (Except.ok.inj hv)]
        exact htakes
      · rw [hc] at hv
        cases hv
    · rcases Field.valueFor_creation ms f with hc | ⟨e, hc⟩ <;> rw [hc] at hv <;> cases hv

/-! ## Updating -/

theorem answer_update_eq_error_iff_of_changeable {r : Held} (hr : s.records[h]? = some r)
    (hfit : r.Changeable) (hread : s.supplies.clock.read.1 = .ok now) {e : Failure} :
    (s.step (.update h (.object ms))).answer = .error e ↔
      Field.FirstFault s.supplies.room now.instant Field.absentFromUpdate ms e := by
  have hskip : ∀ f, Field.absentFromUpdate f = .null →
      ∃ a, Field.Takes now.instant f .null a := fun f hf => by cases hf
  rw [answer_update hr hfit, Key.changes_of_read hread, ← Field.readAll_eq_error_iff hskip]
  cases Field.readAll s.supplies.room now.instant Field.absentFromUpdate ms Field.list <;>
    simp [Except.map]

theorem answer_update_eq_error_iff (hr : s.records[h]? = some (.ofKey k))
    (hread : s.supplies.clock.read.1 = .ok now) {e : Failure} :
    (s.step (.update h (.object ms))).answer = .error e ↔
      Field.FirstFault s.supplies.room now.instant Field.absentFromUpdate ms e :=
  answer_update_eq_error_iff_of_changeable hr (Held.changeable_ofKey k) hread

theorem update_eq_ok (hr : s.records[h]? = some (.ofKey k))
    (hread : s.supplies.clock.read.1 = .ok now) {a : Answer}
    (ha : (s.step (.update h (.object ms))).answer = .ok a) :
    ∃ k', a = .record h ∧
      (s.step (.update h (.object ms))).session.records[h]? = some (.ofKey k') ∧
      ∀ f : Field, match ms.get? f.inputName with
        | some raw => Field.Takes now.instant f raw (k'.held f)
        | none => k'.held f = k.held f := by
  obtain ⟨ms', now', as, hms, hread', hall, rfl, hrecord⟩ := step_update_eq_ok hr ha
  obtain rfl : ms = ms' := Value.object.inj hms
  obtain rfl : now' = now := Except.ok.inj (hread'.symm.trans hread)
  refine ⟨_, rfl, hrecord, fun f => ?_⟩
  rw [Key.held_change]
  cases hget : ms.get? f.inputName with
  | some raw => exact Field.takes_held_of_readAll hall hget k
  | none => exact Field.held_of_readAll_of_skip hall hget rfl k

/-! ## Both -/

/-- **Creating and updating are judged by one rule.** At one reading of a UTC clock a request fails
with its first fault in the order description, actions, indexes, expiration, where only creation
finds a fault in an absent field; what succeeds holds what its fields take. A refused value is the
one that the request has, also in the report. On a request with actions, indexes and expiration both
fail with the same failure, or both succeed and agree in every field of the request. -/
theorem create_update_agree (hr : s.records[h]? = some (.ofKey k))
    (hread : s.supplies.clock.read.1 = .ok now) (hnow : now.Utc) {id : Text}
    (hid : (KeyId.generate s.supplies.draws).1 = some id) (ms : Members) :
    let created := s.step (.create (.object ms))
    let updated := s.step (.update h (.object ms))
    (∀ e, created.answer = .error e ↔
      Field.FirstFault s.supplies.room now.instant Field.absentFromCreation ms e) ∧
    (∀ e, updated.answer = .error e ↔
      Field.FirstFault s.supplies.room now.instant Field.absentFromUpdate ms e) ∧
    (∀ a, created.answer = .ok a → ∃ k', a = .record s.records.length ∧
      created.session.records[s.records.length]? = some (.ofKey k') ∧
      ∀ f : Field, Field.Takes now.instant f ((ms.get? f.inputName).getD .null) (k'.held f)) ∧
    (∀ a, updated.answer = .ok a → ∃ k', a = .record h ∧
      updated.session.records[h]? = some (.ofKey k') ∧
      ∀ f : Field, match ms.get? f.inputName with
        | some raw => Field.Takes now.instant f raw (k'.held f)
        | none => k'.held f = k.held f) ∧
    (∀ f raw shown, created.answer = .error (.rejected (.invalid f raw shown)) ∨
        updated.answer = .error (.rejected (.invalid f raw shown)) →
      (ms.get? f.inputName = some raw ∧
        ∃ t, raw.display s.supplies.room = .ok t ∧ shown = Text.ofChars t) ∧
      (Rejection.invalid f raw shown).report.toValue = .object [
        ("error", .text (Rejection.invalid f raw shown).code),
        ("message", .text (Rejection.invalid f raw shown).message),
        ("details", .object [("field", .text f.inputName), ("value", raw)])]) ∧
    ((∀ f : Field, f ≠ .description → ms.get? f.inputName ≠ none) →
      (∀ e, created.answer = .error e ↔ updated.answer = .error e) ∧
      ∀ a b, created.answer = .ok a → updated.answer = .ok b → ∃ k₁ k₂,
        created.session.records[s.records.length]? = some (.ofKey k₁) ∧
        updated.session.records[h]? = some (.ofKey k₂) ∧
        (∀ f : Field, ms.get? f.inputName ≠ none → k₁.held f = k₂.held f) ∧
        (ms.get? Field.description.inputName = none →
          k₁.description = none ∧ k₂.description = k.description)) := by
  intro created updated
  have hcreate : ∀ e, created.answer = .error e ↔
      Field.FirstFault s.supplies.room now.instant Field.absentFromCreation ms e :=
    fun e => answer_create_eq_error_iff hread hnow hid
  have hupdate : ∀ e, updated.answer = .error e ↔
      Field.FirstFault s.supplies.room now.instant Field.absentFromUpdate ms e :=
    fun e => answer_update_eq_error_iff hr hread
  refine ⟨hcreate, hupdate, fun a => create_eq_ok hread, fun a => update_eq_ok hr hread,
    fun f raw shown hinvalid => ⟨?_, rfl⟩, fun hpresent => ⟨fun e => ?_, fun a b ha hb => ?_⟩⟩
  · rcases hinvalid with hinvalid | hinvalid
    · exact ((hcreate _).1 hinvalid).get?_of_invalid
    · exact ((hupdate _).1 hinvalid).get?_of_invalid
  · rw [hcreate, hupdate, Field.firstFault_creation_iff_update hpresent]
  · obtain ⟨k₁, -, h₁, htakes₁⟩ := create_eq_ok hread ha
    obtain ⟨k₂, -, h₂, htakes₂⟩ := update_eq_ok hr hread hb
    refine ⟨k₁, k₂, h₁, h₂, fun f hf => ?_, fun hnone => ⟨?_, ?_⟩⟩
    · obtain ⟨raw, hget⟩ := Option.ne_none_iff_exists'.1 hf
      have ht₁ := htakes₁ f
      have ht₂ := htakes₂ f
      rw [hget] at ht₁ ht₂
      exact ht₁.unique ht₂
    · have ht₁ := htakes₁ .description
      rw [hnone] at ht₁
      exact Assignment.description.inj (ht₁.unique .noDescription)
    · have ht₂ := htakes₂ .description
      rw [hnone] at ht₂
      exact Assignment.description.inj ht₂

/-- A request whose indexes are null is refused for them on both sides, whatever its expiration. -/
theorem create_update_agree_indexes :
    let s := sample [.ofKey (.blank [] ⟨0⟩)]
    let ms : Members := [("expiresAt", .text "0001-01-01"), ("indexes", .null),
      ("actions", .tuple [.text "search"])]
    (s.step (.update 0 (.object ms))).answer =
      .error (.rejected (.invalid .indexes .null "null")) := by
  intro s ms
  have hdraws : (KeyId.generate s.supplies.draws).1.isSome = true := by decide +kernel
  obtain ⟨id, hid⟩ := Option.isSome_iff_exists.1 hdraws
  have hread : s.supplies.clock.read.1 = .ok ⟨0, 0⟩ := rfl
  have hagree := create_update_agree (s := s) (h := 0) rfl hread ⟨rfl, by decide⟩ hid ms
  have hpresent : ∀ f : Field, f ≠ .description → ms.get? f.inputName ≠ none := by
    intro f hf
    cases f with
    | description => exact absurd rfl hf
    | _ => exact Option.some_ne_none _
  exact ((hagree.2.2.2.2.2 hpresent).1 _).1 rfl

end Session

end ApiKeys
