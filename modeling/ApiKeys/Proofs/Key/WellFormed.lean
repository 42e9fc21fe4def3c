import ApiKeys.Key.Stored
import ApiKeys.Proofs.Reading
import ApiKeys.Proofs.Request.Builder

/-!
# Well-formed records

A record is well-formed when its identifier has the form of one and its instants have dates. Records
that are built at a reading of a UTC clock are well-formed, changes at such readings keep them so
(`Key.WellFormed.change`), and whatever stored data is accepted, the record that it describes is
well-formed (`Key.wellFormed_of_ofStored`).
-/

namespace ApiKeys

/-- The identifier has the form of one and the instants have dates. -/
structure Key.WellFormed (k : Key) : Prop where
  id : KeyId.Valid k.id
  expiresAt : ∀ e, k.expiresAt = some e → e.Representable
  createdAt : k.createdAt.Representable
  updatedAt : k.updatedAt.Representable

theorem Field.Takes.representable {now : Instant} {f : Field} {raw : Value} {e : Instant}
    (h : Field.Takes now f raw (.expiresAt (some e))) : e.Representable := by
  cases h with
  | expiresAt hc =>
    obtain ⟨t, -, ht, -⟩ := checkExpiration_eq_some_iff.1 (hc ⟨0, 0⟩)
    obtain ⟨s, c, o, -, -, -, -, hrep⟩ := expirationInstant?_eq_some_iff.1 ht
    exact hrep

theorem DefaultKey.field?_parts (which : DefaultKey) (settings : Settings) :
    ∀ a ∈ which.parts settings, a.field? ≠ none := by
  intro a ha
  cases which <;> fin_cases ha <;> exact Option.some_ne_none _

namespace Key

/-! ## Records that are built -/

theorem held_expiresAt (k : Key) : k.held .expiresAt = .expiresAt k.expiresAt := rfl

theorem representable_of_readAll {room : Room} {now : Instant} {absence : Field → Field.Absence}
    {ms : Members} {as : List Assignment}
    (hall : Field.readAll room now absence ms Field.list = .ok as) {k : Key}
    (hk : ∀ e, k.expiresAt = some e → e.Representable) {e : Instant}
    (he : (k.assignAll as).expiresAt = some e) : e.Representable := by
  rcases Field.held_of_readAll hall k .expiresAt with ⟨raw, -, htakes⟩ | ⟨-, hheld⟩
  · rw [held_expiresAt, he] at htakes
    exact htakes.representable
  · rw [held_expiresAt, held_expiresAt, Assignment.expiresAt.injEq] at hheld
    exact hk e (hheld ▸ he)

theorem wellFormed_of_build {now : Zoned} {parts : List Assignment} {draws : Draws} {k : Key}
    (h : (build now parts draws).1 = .ok k) (hparts : ∀ a ∈ parts, a.field? ≠ none)
    (he : ∀ id t e, ((blank id t).assignAll parts).expiresAt = some e → e.Representable) :
    k.WellFormed := by
  obtain ⟨id, t, hid, ht, rfl⟩ := build_eq_ok h
  have hrep := (Zoned.utc?_eq_some_iff.1 ht).2
  refine ⟨?_, he id t, ?_, ?_⟩
  · rw [id_assignAll]
    exact hid
  · rw [createdAt_assignAll]
    exact hrep
  · rw [updatedAt_assignAll _ hparts]
    exact hrep

theorem wellFormed_of_create {body : Value} {s : Supplies} {k : Key}
    (h : (create body s).1 = .ok k) : k.WellFormed := by
  obtain ⟨ms, now, parts, -, -, hall, hbuild⟩ := create_eq_ok h
  refine wellFormed_of_build hbuild (Field.field?_ne_none_of_readAll hall) fun id t e he => ?_
  exact representable_of_readAll hall (fun e he => by cases he) he

theorem wellFormed_of_createDefault {settings : Settings} {which : DefaultKey} {s : Supplies}
    {k : Key} (h : (createDefault settings which s).1 = .ok k) : k.WellFormed := by
  obtain ⟨now, -, hbuild⟩ := createDefault_eq_ok h
  refine wellFormed_of_build hbuild (which.field?_parts settings) fun id t e he => ?_
  cases which <;> cases he

theorem WellFormed.change_of_representable {room : Room} {k : Key} (hk : k.WellFormed) {now : Zoned}
    (hnow : now.instant.Representable) {ms : Members} {as : List Assignment}
    (hall : Field.readAll room now.instant Field.absentFromUpdate ms Field.list = .ok as) :
    (k.change now as).WellFormed where
  id := by
    show KeyId.Valid (k.assignAll as).id
    rw [id_assignAll]
    exact hk.id
  expiresAt := fun e he => representable_of_readAll hall hk.expiresAt he
  createdAt := by
    show (k.assignAll as).createdAt.Representable
    rw [createdAt_assignAll]
    exact hk.createdAt
  updatedAt := by
    show (now.instant.later k.updatedAt).Representable
    rw [Instant.later]
    split
    · exact hk.updatedAt
    · exact hnow

theorem WellFormed.change {room : Room} {k : Key} (hk : k.WellFormed) {now : Zoned} (hnow : now.Utc)
    {ms : Members} {as : List Assignment}
    (hall : Field.readAll room now.instant Field.absentFromUpdate ms Field.list = .ok as) :
    (k.change now as).WellFormed :=
  hk.change_of_representable hnow.representable hall

end Key

/-! ## Records that are restored -/

namespace Stored

variable {α : Type} {ms : Members} {n : WireName} {read : List Issue.Step → Value → Reading α}

theorem required_eq_value {a : α} (h : required ms n read = .value a) :
    ∃ place v, read place v = .value a := by
  rw [required] at h
  split at h
  · exact ⟨_, _, h⟩
  · cases h

theorem optional_eq_value {a : α} (h : optional ms n read = .value (some a)) :
    ∃ place v, read place v = .value a := by
  rw [optional] at h
  split at h
  · cases h
  · cases h
  · obtain ⟨a', ha', he⟩ := Reading.map_eq_value_iff.1 h
    obtain rfl := Option.some.inj he
    exact ⟨_, _, ha'⟩

theorem readingAt_eq_value_iff {place : List Issue.Step} {r : Except Issue.Kind α} {a : α} :
    readingAt place r = .value a ↔ r = .ok a := by
  cases r <;> simp [readingAt, Reading.issue]

theorem isSome_chars?_of_alphabet {t : Text} (h : ∀ p ∈ t, KeyId.ofAlphabet p = true) :
    t.chars?.isSome = true := by
  induction t with
  | nil => rfl
  | cons p t ih =>
    obtain ⟨hp, ht⟩ := List.forall_mem_cons.1 h
    cases p with
    | char c => rw [Text.chars?, Option.isSome_map, ih ht]
    | surrogate i => cases hp

theorem checkId_eq_ok_iff {t id : Text} : checkId t = .ok id ↔ KeyId.Valid t ∧ t = id := by
  constructor
  · intro h
    unfold checkId at h
    split_ifs at h with hchars hshort hlong hvalid
    exact ⟨hvalid, Except.ok.inj h⟩
  · rintro ⟨hvalid, rfl⟩
    have hchars : ¬ t.chars?.isNone = true := by
      rw [Option.isNone_iff_eq_none, ← ne_eq, Option.ne_none_iff_isSome]
      exact isSome_chars?_of_alphabet hvalid.2
    rw [checkId, if_neg hchars, if_neg (by rw [hvalid.1]; omega), if_neg (by rw [hvalid.1]; omega),
      if_pos hvalid]

theorem valid_of_idOf {v : Value} {id : Text} (h : idOf v = .ok id) : KeyId.Valid id := by
  unfold idOf at h
  split at h
  · obtain ⟨hvalid, rfl⟩ := checkId_eq_ok_iff.1 h
    exact hvalid
  · cases h

theorem representable_of_reading {place : List Issue.Step} {v : Value} {t : Instant}
    (h : StoredTime.reading place v = .value t) : t.Representable := by
  unfold StoredTime.reading at h
  split at h
  · cases h
  · split at h
    · next hutc =>
      obtain rfl := Reading.value.inj h
      exact (Zoned.utc?_eq_some_iff.1 hutc).2
    · cases h

theorem record_eq_value_iff {ms : Members} {k : Key} :
    record ms = .value k ↔
      optional ms .description (fun place v => readingAt place v.asText) = .value k.description ∧
      required ms .id (fun place v => readingAt place (idOf v)) = .value k.id ∧
      required ms .actions (listOf actionOf) = .value k.actions ∧
      required ms .indexes (listOf Value.asText) = .value k.indexes ∧
      optional ms .expiresAt StoredTime.reading = .value k.expiresAt ∧
      required ms .createdAt StoredTime.reading = .value k.createdAt ∧
      required ms .updatedAt StoredTime.reading = .value k.updatedAt := by
  constructor
  · intro h
    obtain ⟨_, updated, h₆, hupdated, rfl⟩ := Reading.combine_eq_value_iff.1 h
    obtain ⟨_, created, h₅, hcreated, rfl⟩ := Reading.combine_eq_value_iff.1 h₆
    obtain ⟨_, expires, h₄, hexpires, rfl⟩ := Reading.combine_eq_value_iff.1 h₅
    obtain ⟨_, indexes, h₃, hindexes, rfl⟩ := Reading.combine_eq_value_iff.1 h₄
    obtain ⟨_, actions, h₂, hactions, rfl⟩ := Reading.combine_eq_value_iff.1 h₃
    obtain ⟨_, id, h₁, hid, rfl⟩ := Reading.combine_eq_value_iff.1 h₂
    obtain ⟨description, hdescription, rfl⟩ := Reading.map_eq_value_iff.1 h₁
    exact ⟨hdescription, hid, hactions, hindexes, hexpires, hcreated, hupdated⟩
  · rintro ⟨hdescription, hid, hactions, hindexes, hexpires, hcreated, hupdated⟩
    rw [record, hdescription, hid, hactions, hindexes, hexpires, hcreated, hupdated]
    rfl

end Stored

theorem Key.ofStored_eq_ok_iff {data : Value} {k : Key} :
    ofStored data = .ok k ↔ ∃ ms, data = .object ms ∧ Stored.record ms = .value k := by
  rw [ofStored, Reading.toExcept_eq_ok_iff]
  constructor
  · intro h
    cases data with
    | object ms => exact ⟨ms, rfl, h⟩
    | _ => cases h
  · rintro ⟨ms, rfl, h⟩
    exact h

/-- **Stored data that is accepted describes a well-formed record.** -/
theorem Key.wellFormed_of_ofStored {data : Value} {k : Key} (h : Key.ofStored data = .ok k) :
    k.WellFormed := by
  obtain ⟨ms, -, hrecord⟩ := ofStored_eq_ok_iff.1 h
  obtain ⟨-, hid, -, -, hexpires, hcreated, hupdated⟩ := Stored.record_eq_value_iff.1 hrecord
  obtain ⟨_, _, hid⟩ := Stored.required_eq_value hid
  obtain ⟨_, _, hcreated⟩ := Stored.required_eq_value hcreated
  obtain ⟨_, _, hupdated⟩ := Stored.required_eq_value hupdated
  refine ⟨Stored.valid_of_idOf (Stored.readingAt_eq_value_iff.1 hid), fun e he => ?_,
    Stored.representable_of_reading hcreated, Stored.representable_of_reading hupdated⟩
  rw [he] at hexpires
  obtain ⟨_, _, hexpires⟩ := Stored.optional_eq_value hexpires
  exact Stored.representable_of_reading hexpires

end ApiKeys
