import ApiKeys.Event
import Mathlib.Tactic

/-!
# The fields of a record

What a record holds for each field of a request, and what assigning does to it: an assignment to a
field replaces what is held for that field and nothing else (`Key.held_assign`), and of assignments
to different fields each has its own effect (`Key.held_assignAll`).
-/

namespace ApiKeys

/-- What a record holds for a field, as the assignment that gives it. -/
def Key.held (k : Key) : Field → Assignment
  | .description => .description k.description
  | .actions => .actions k.actions
  | .indexes => .indexes k.indexes
  | .expiresAt => .expiresAt k.expiresAt

namespace Key

theorem ext_held {k l : Key} (hid : k.id = l.id) (hfields : ∀ f, k.held f = l.held f)
    (hcreated : k.createdAt = l.createdAt) (hupdated : k.updatedAt = l.updatedAt) : k = l := by
  obtain ⟨d, id, as, is, e, c, u⟩ := k
  obtain ⟨d', id', as', is', e', c', u'⟩ := l
  have hd := hfields .description
  have ha := hfields .actions
  have hi := hfields .indexes
  have he := hfields .expiresAt
  simp only [held, Assignment.description.injEq, Assignment.actions.injEq, Assignment.indexes.injEq,
    Assignment.expiresAt.injEq] at hid hd ha hi he hcreated hupdated
  rw [hd, hid, ha, hi, he, hcreated, hupdated]

theorem held_assign (k : Key) (a : Assignment) (f : Field) :
    (k.assign a).held f = if a.field? = some f then a else k.held f := by
  cases a <;> cases f <;> rfl

theorem updatedAt_assign {a : Assignment} (k : Key) (h : a.field? ≠ none) :
    (k.assign a).updatedAt = k.updatedAt := by
  cases a with
  | updatedAt t => exact absurd rfl h
  | _ => rfl

theorem assignAll_cons (k : Key) (a : Assignment) (as : List Assignment) :
    k.assignAll (a :: as) = (k.assign a).assignAll as := rfl

theorem updatedAt_assignAll (k : Key) {as : List Assignment} (h : ∀ a ∈ as, a.field? ≠ none) :
    (k.assignAll as).updatedAt = k.updatedAt := by
  induction as generalizing k with
  | nil => rfl
  | cons a as ih =>
    rw [assignAll_cons, ih _ fun b hb => h b (by simp [hb]), updatedAt_assign k (h a (by simp))]

theorem held_assignAll_of_ne (k : Key) {as : List Assignment} {f : Field}
    (h : ∀ a ∈ as, a.field? ≠ some f) : (k.assignAll as).held f = k.held f := by
  induction as generalizing k with
  | nil => rfl
  | cons a as ih =>
    rw [assignAll_cons, ih _ fun b hb => h b (by simp [hb]), held_assign, if_neg (h a (by simp))]

/-- **Of assignments to some fields, at most one to each, every one has its effect.** -/
theorem held_assignAll (k : Key) {fs : List Field} {given : Field → Option Assignment}
    (hfield : ∀ f a, given f = some a → a.field? = some f) (hnodup : fs.Nodup) {f : Field}
    (hf : f ∈ fs) : (k.assignAll (fs.filterMap given)).held f = (given f).getD (k.held f) := by
  induction fs generalizing k with
  | nil => simp at hf
  | cons g fs ih =>
    obtain ⟨hg, hnodup⟩ := List.nodup_cons.1 hnodup
    have hother : ∀ l : Key, g = f → (l.assignAll (fs.filterMap given)).held f = l.held f := by
      rintro l rfl
      refine held_assignAll_of_ne l fun a ha hag => ?_
      obtain ⟨g', hg', hga⟩ := List.mem_filterMap.1 ha
      rw [hfield g' a hga] at hag
      exact hg (Option.some.inj hag ▸ hg')
    rcases eq_or_ne g f with hgf | hgf
    · cases hgiven : given g with
      | none => rw [List.filterMap_cons_none hgiven, hother k hgf, ← hgf, hgiven, Option.getD_none]
      | some a =>
        rw [List.filterMap_cons_some hgiven, assignAll_cons, hother _ hgf, held_assign,
          hfield g a hgiven, if_pos (by rw [hgf]), ← hgf, hgiven, Option.getD_some]
    · have hf : f ∈ fs := (List.mem_cons.1 hf).resolve_left (Ne.symm hgf)
      cases hgiven : given g with
      | none => rw [List.filterMap_cons_none hgiven, ih k hnodup hf]
      | some a =>
        have hag : a.field? ≠ some f := by
          rw [hfield g a hgiven]
          exact fun h => hgf (Option.some.inj h)
        rw [List.filterMap_cons_some hgiven, assignAll_cons, ih _ hnodup hf, held_assign,
          if_neg hag]

end Key

end ApiKeys
