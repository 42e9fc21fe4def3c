import ApiKeys.Proofs.Expiration.Canonical

/-!
# A record as a request

The wire shape of a record is a request for a record like it: each field takes back what was written
of it (`Key.WellFormed.takes_shapeOf`), and the parts that no request has are passed over. Only the
expiration may be refused, since it is judged once more at the new reading of the clock. So what is
created from the shape is the record under a new identifier and new times, until the record has
expired (`Key.Obtained.create_wire`).
-/

namespace ApiKeys

/-! ## Fields that take their values -/

namespace Field

theorem readAll_append_of_takes (room : Room) (now : Instant) {absence : Field → Absence}
    {ms : Members}
    (fs : List Field) {raw : Field → Value} {given : Field → Assignment}
    (hvalue : ∀ f ∈ fs, valueFor absence ms f = .ok (some (raw f)))
    (htakes : ∀ f ∈ fs, Takes now f (raw f) (given f)) (gs : List Field) :
    readAll room now absence ms (fs ++ gs) =
      (readAll room now absence ms gs).map (fs.map given ++ ·) := by
  induction fs with
  | nil =>
    rw [List.nil_append]
    cases readAll room now absence ms gs <;> rfl
  | cons f fs ih =>
    obtain ⟨hv, hvs⟩ := List.forall_mem_cons.1 hvalue
    obtain ⟨ht, hts⟩ := List.forall_mem_cons.1 htakes
    rw [List.cons_append, readAll, hv]
    dsimp only
    rw [read_eq_ok_iff.2 ht]
    dsimp only
    rw [ih hvs hts]
    cases readAll room now absence ms gs <;> rfl

/-- The name of a field on the wire. -/
def wireName : Field → WireName
  | description => .description
  | actions => .actions
  | indexes => .indexes
  | expiresAt => .expiresAt

end Field

/-! ## The wire shape as a request -/

namespace Key

theorem valueFor_shape (k : Key) (f : Field) :
    Field.valueFor Field.absentFromCreation k.shape f = .ok (some (k.shapeOf f.wireName)) := by
  rw [Field.valueFor, shape]
  cases f <;> simp only [Field.wireName, shapeOf] <;> cases k.description <;> rfl

theorem get?_shape_expiresAt (k : Key) :
    k.shape.get? Field.expiresAt.inputName = some (k.shapeOf .expiresAt) := by
  rw [shape]
  cases k.description <;> rfl

theorem WellFormed.takes_shapeOf {k : Key} (h : k.WellFormed) {now : Instant} {f : Field}
    (hf : f = .expiresAt → k.isExpired now = false) :
    Field.Takes now f (k.shapeOf f.wireName) (k.held f) := by
  cases f with
  | description =>
    simp only [Field.wireName, shapeOf, held]
    cases k.description with
    | none => exact .noDescription
    | some d => exact .description d
  | actions =>
    refine .actions (.inl rfl) ?_
    rw [List.forall₂_map_right_iff]
    exact List.forall₂_same.2 fun _ _ => .text
  | indexes => exact .indexes (.inl rfl)
  | expiresAt =>
    have hexpired := hf rfl
    simp only [Field.wireName, shapeOf, held]
    cases he : k.expiresAt with
    | none => exact .never
    | some e =>
      rw [isExpired, he] at hexpired
      have hnow : now < e := Instant.lt_iff_not_le.2 (of_decide_eq_false hexpired)
      refine .expiresAt fun room => ?_
      rw [checkExpiration_rfc3339 (h.expiresAt e he), if_pos hnow]

theorem WellFormed.readAll_shape {k : Key} (h : k.WellFormed) (room : Room) {now : Instant}
    (hexpired : k.isExpired now = false) :
    Field.readAll room now Field.absentFromCreation k.shape Field.list =
      .ok (Field.list.map k.held) := by
  have hall := Field.readAll_append_of_takes room now Field.list
    (fun f _ => k.valueFor_shape f) (fun f _ => h.takes_shapeOf fun _ => hexpired) []
  simpa [Field.readAll, Except.map] using hall

theorem WellFormed.readAll_shape_of_expired {k : Key} (h : k.WellFormed) (room : Room)
    {now : Instant} (hexpired : k.isExpired now = true) :
    ∃ t : Text, k.shapeOf .expiresAt = .text t ∧
      Field.readAll room now Field.absentFromCreation k.shape Field.list =
        .error (.rejected (.ofText .expiresAt t)) := by
  have hlast : ∃ t : Text, k.shapeOf .expiresAt = .text t ∧
      Field.read room now .expiresAt (k.shapeOf .expiresAt) =
        .error (.rejected (.ofText .expiresAt t)) := by
    rw [isExpired] at hexpired
    cases he : k.expiresAt with
    | none => simp [he] at hexpired
    | some e =>
      rw [he] at hexpired
      have hnow : ¬ now < e := fun hlt => Instant.lt_iff_not_le.1 hlt (of_decide_eq_true hexpired)
      rw [shapeOf, he, Option.map_some, Option.getD_some, Field.read,
        checkExpiration_rfc3339 (h.expiresAt e he), if_neg hnow]
      exact ⟨_, rfl, rfl⟩
  obtain ⟨t, ht, hlast⟩ := hlast
  have hfirst := Field.readAll_append_of_takes room now
    [.description, .actions, .indexes] (fun f _ => k.valueFor_shape f)
    (fun f hf => h.takes_shapeOf fun he => by simp [he] at hf) [.expiresAt]
  rw [Field.readAll, k.valueFor_shape] at hfirst
  dsimp only [Field.wireName] at hfirst
  rw [hlast] at hfirst
  exact ⟨t, ht, hfirst⟩

theorem assignAll_held (k : Key) (id : Text) (t : Instant) :
    (blank id t).assignAll (Field.list.map k.held) =
      { k with id := id, createdAt := t, updatedAt := t } := rfl

/-- **The wire shape of a record is a request for a record like it.** At a reading of a UTC clock at
which the record has not expired, what is created is the record under the new identifier, built and
changed at the reading. If it has expired, the request is refused for the expiration, with the value
that the shape has for it. -/
theorem Obtained.create_wire {k : Key} (h : k.Obtained) {s : Supplies} {now : Zoned}
    (hread : s.clock.read.1 = .ok now) (hnow : now.Utc) {id : Text}
    (hid : (KeyId.generate s.draws).1 = some id) :
    ∃ ms, (Held.ofKey k).wire = .ok ms ∧
      ((Held.ofKey k).isExpired now.instant = .ok false →
        (create (.object ms) s).1 =
          .ok { k with id := id, createdAt := now.instant, updatedAt := now.instant }) ∧
      ((Held.ofKey k).isExpired now.instant = .ok true →
        ∃ t : Text, ms.get? Field.expiresAt.inputName = some (.text t) ∧
          (create (.object ms) s).1 = .error (.rejected (.ofText .expiresAt t))) := by
  have hwell := h.wellFormed
  refine ⟨k.shape, hwell.held_wire, fun hexpired => ?_, fun hexpired => ?_⟩
  · rw [create_of_read hread, hwell.readAll_shape s.room (Except.ok.inj hexpired)]
    dsimp only
    rw [build_of_utc hnow _ hid, assignAll_held]
  · obtain ⟨t, ht, hall⟩ := hwell.readAll_shape_of_expired s.room (Except.ok.inj hexpired)
    refine ⟨t, ht ▸ k.get?_shape_expiresAt, ?_⟩
    rw [create_of_read hread, hall]

/-- A record without a description, renewed at the first microsecond of the calendar and refused at
the last one. -/
theorem Obtained.create_wire_restored :
    let data : Value := .object [("id", .text (List.replicate 64 (.char 'a'))),
      ("actions", .list [.text "search", .text "search"]), ("indexes", .list []),
      ("expiresAt", .text "2040-01-01T01:30:00.5+02:00"), ("createdAt", .int 0),
      ("updatedAt", .int 0)]
    let supplies (wall : Nat) : Supplies :=
      ⟨.scripted [⟨wall, 0⟩], .ofList [⟨0, by decide⟩] KeyId.length, ⟨0, 0⟩⟩
    ∃ k k' ms t, ofStored data = .ok k ∧ (Held.ofKey k).wire = .ok ms ∧
      (create (.object ms) (supplies 0)).1 = .ok k' ∧ k'.held = k.held ∧
      (create (.object ms) (supplies (Civil.limit - 1))).1 =
        .error (.rejected (.ofText .expiresAt t)) := by
  intro data supplies
  have hexpired : (ofStored data).toOption.map
      (fun k => (k.isExpired ⟨0⟩, k.isExpired ⟨Civil.limit - 1⟩)) = some (false, true) := by
    decide +kernel
  have hdraws : (KeyId.generate (supplies 0).draws).1.isSome = true := by decide +kernel
  obtain ⟨id, hid⟩ := Option.isSome_iff_exists.1 hdraws
  have hread : ∀ wall, (supplies wall).clock.read.1 = .ok ⟨wall, 0⟩ := fun _ => rfl
  cases hk : ofStored data with
  | error f =>
    rw [hk] at hexpired
    cases hexpired
  | ok k =>
    rw [hk] at hexpired
    obtain ⟨hbefore, hafter⟩ := Prod.mk.inj (Option.some.inj hexpired)
    obtain ⟨ms, hwire, hrenewed, -⟩ := Obtained.create_wire (.restored hk) (hread 0)
      ⟨rfl, by decide⟩ hid
    obtain ⟨ms', hwire', -, hrefused⟩ := Obtained.create_wire (.restored hk)
      (hread (Civil.limit - 1)) ⟨rfl, by decide⟩ hid
    obtain rfl := Except.ok.inj (hwire.symm.trans hwire')
    obtain ⟨t, -, ht⟩ := hrefused (congrArg Except.ok hafter)
    refine ⟨k, _, ms, t, rfl, hwire, hrenewed (congrArg Except.ok hbefore), ?_, ht⟩
    funext f
    cases f <;> rfl

end Key

end ApiKeys
