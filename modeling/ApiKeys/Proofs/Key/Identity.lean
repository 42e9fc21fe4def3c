import ApiKeys.Key.Held
import Mathlib.Tactic

/-!
# What never changes about a record in use

The identifier of a held record is the text in the place of that part, unless something else stands
there (`Held.id`). A change leaves it alone, and with it the time of creation
(`Held.sameOrigin_change`), and so does every assignment by name but one: only replacing all parts
of a record at once can touch them (`Held.sameOrigin_set`). A record that is fit for changes is one
whose own notes are in order (`Held.Changeable`); nothing but a fault of the request stops a change
of it.
-/

namespace ApiKeys

theorem Assignment.part_ne_id (a : Assignment) : a.part ≠ .id := by
  cases a <;> simp [part]

theorem Part.frozen_put? {p : Part} (hp : p.isFrozen = false) {k k' : Key} {v : Value}
    (h : p.put? k v = some k') : k'.id = k.id ∧ k'.createdAt = k.createdAt := by
  unfold put? at h
  split at h <;>
    first
    | exact absurd hp (by decide)
    | (obtain ⟨_, -, rfl⟩ := Option.map_eq_some_iff.1 h; exact ⟨rfl, rfl⟩)
    | (obtain rfl := Option.some.inj h; exact ⟨rfl, rfl⟩)
    | cases h

theorem Part.frozen_clear (k : Key) (p : Part) :
    (p.clear k).id = k.id ∧ (p.clear k).createdAt = k.createdAt := by
  cases p <;> exact ⟨rfl, rfl⟩

namespace Target

variable {name : Text} {v : Value} {target : Target}

theorem ofInnerName_eq_ok (h : ofInnerName name v = .ok target) :
    (∀ p, target ≠ .part p) ∧
      (target = .parts → name = ("__dict__" : Text) ∧ ∃ ms, v = .object ms) := by
  unfold ofInnerName at h
  split_ifs at h with hdict
  · cases v with
    | object ms =>
      obtain rfl := Except.ok.inj h
      exact ⟨fun _ hp => (nomatch hp), fun _ => ⟨hdict, ms, rfl⟩⟩
    | _ => cases h
  all_goals cases h
  all_goals exact ⟨fun _ hp => (nomatch hp), fun hp => (nomatch hp)⟩

theorem ofName_eq_ok (h : ofName name v = .ok target) :
    (∀ p, target = .part p → p.isFrozen = false) ∧
      (target = .parts → name = ("__dict__" : Text) ∧ ∃ ms, v = .object ms) := by
  unfold ofName at h
  split_ifs at h with hread hshared hinner
  · cases hi : ofInnerName name v with
    | error f =>
      rw [hi] at h
      cases h
    | ok inner =>
      rw [hi] at h
      obtain rfl := Except.ok.inj h
      obtain ⟨hpart, hparts⟩ := ofInnerName_eq_ok hi
      exact ⟨fun p hp => absurd hp (hpart p), hparts⟩
  · split at h
    · cases h
    · next p _ =>
      split_ifs at h with hfrozen
      obtain rfl := Except.ok.inj h
      refine ⟨fun q hq => ?_, fun hq => (nomatch hq)⟩
      obtain rfl := Target.part.inj hq
      exact Bool.eq_false_iff.2 hfrozen

end Target

namespace Held

variable {p q : Part}

/-! ## One part -/

theorem find?_filter_part (strays : List Stray) (h : p ≠ q) :
    (strays.filter fun s => s.part ≠ q).find? (fun s => s.part = p) =
      strays.find? fun s => s.part = p := by
  rw [List.find?_filter]
  refine List.find?_congr fun s _ => ?_
  by_cases hs : s.part = p
  · simp [hs, h]
  · simp [hs]

theorem contains_partsWith (r : Held) (h : p ≠ q) :
    (r.partsWith q).contains p = r.parts.contains p := by
  unfold partsWith
  split
  · rfl
  · simp [h]

theorem id_congr {r r' : Held} (hstray : r'.stray? .id = r.stray? .id)
    (hparts : r'.parts.contains .id = r.parts.contains .id) (hkey : r'.key.id = r.key.id) :
    r'.id = r.id := by
  rw [id, id, hstray, hparts, hkey]

/-- A record has kept what it is known by and when it was built. -/
structure SameOrigin (r r' : Held) : Prop where
  id : r'.id = r.id
  createdAt : r'.key.createdAt = r.key.createdAt

theorem SameOrigin.refl (r : Held) : r.SameOrigin r := ⟨rfl, rfl⟩

theorem SameOrigin.trans {r r' r'' : Held} (h : r.SameOrigin r') (h' : r'.SameOrigin r'') :
    r.SameOrigin r'' :=
  ⟨h'.id.trans h.id, h'.createdAt.trans h.createdAt⟩

theorem sameOrigin_assign (r : Held) (a : Assignment) : r.SameOrigin (r.assign a) where
  id := id_congr (find?_filter_part r.strays a.part_ne_id.symm)
    (r.contains_partsWith a.part_ne_id.symm) (r.key.id_assign a)
  createdAt := r.key.createdAt_assign a

theorem sameOrigin_give (r : Held) (hp : p.isFrozen = false) (v : Value) (origin : Nat) :
    r.SameOrigin (r.give p v origin) := by
  have hid : Part.id ≠ p := by
    rintro rfl
    cases hp
  unfold give
  cases h : p.put? r.key v with
  | some k =>
    obtain ⟨hkey, hcreated⟩ := Part.frozen_put? hp h
    exact ⟨id_congr (find?_filter_part r.strays hid) (r.contains_partsWith hid) hkey, hcreated⟩
  | none =>
    obtain ⟨hkey, hcreated⟩ := Part.frozen_clear r.key p
    refine ⟨id_congr ?_ (r.contains_partsWith hid) hkey, hcreated⟩
    rw [stray?, List.find?_cons_of_neg (by simpa using hid.symm)]
    exact find?_filter_part r.strays hid

/-! ## Changes -/

theorem sameOrigin_assignAll (r : Held) (as : List Assignment) :
    r.SameOrigin (r.assignAll as).1 := by
  induction as generalizing r with
  | nil => exact .refl r
  | cons a as ih =>
    rw [assignAll]
    cases r.markFault? with
    | some f => exact r.sameOrigin_assign a
    | none => exact (r.sameOrigin_assign a).trans (ih (r.assign a))

theorem sameOrigin_change (r : Held) (now : Zoned) (as : List Assignment) :
    r.SameOrigin (r.change now as).1 := by
  have hall := r.sameOrigin_assignAll as
  unfold change
  revert hall
  rcases r.assignAll as with ⟨changed, _ | f⟩
  · intro hall
    dsimp only
    split
    · exact hall
    · split
      · exact hall.trans (changed.sameOrigin_assign _)
      · exact hall
  · exact fun hall => hall

theorem sameOrigin_set (r : Held) {target : Target}
    (hpart : ∀ p, target = .part p → p.isFrozen = false) (hparts : target ≠ .parts) (v : Value)
    (origin : Nat) : r.SameOrigin (r.set target v origin).1 := by
  cases target with
  | part p => exact r.sameOrigin_give (hpart p rfl) v origin
  | parts => exact absurd rfl hparts
  | _ => exact ⟨rfl, rfl⟩

/-! ## Records fit for changes -/

/-- The record can take note of what it is given, its time of change is a time, and what it is known
by can be shown. -/
structure Changeable (r : Held) : Prop where
  marks : r.markFault? = none
  stray : r.stray? .updatedAt = none
  part : r.parts.contains .updatedAt = true
  shown : ∃ t, r.shownId = .ok t

theorem changeable_ofKey (k : Key) : (ofKey k).Changeable where
  marks := rfl
  stray := rfl
  part := rfl
  shown := ⟨_, rfl⟩

theorem assignAll_of_marks {r : Held} (h : r.markFault? = none) (as : List Assignment) :
    (r.assignAll as).2 = none := by
  induction as generalizing r with
  | nil => rfl
  | cons a as ih =>
    rw [assignAll, h]
    exact ih h

theorem Changeable.change {r : Held} (h : r.Changeable) (now : Zoned) (as : List Assignment) :
    (r.change now as).2 = none := by
  have hall := assignAll_of_marks h.marks as
  unfold Held.change
  revert hall
  rcases r.assignAll as with ⟨changed, _ | f⟩
  · intro _
    dsimp only
    rw [h.stray, h.part]
    exact h.marks
  · exact fun hall => hall

theorem Changeable.shownId_change {r : Held} (h : r.Changeable) (now : Zoned)
    (as : List Assignment) : ∃ t, (r.change now as).1.shownId = .ok t := by
  rw [shownId, (r.sameOrigin_change now as).id]
  exact h.shown

end Held

end ApiKeys
