import ApiKeys.Reading
import Mathlib.Tactic

/-!
# What readings come to

A reading gives a value exactly when all its parts do (`Reading.combine_eq_value_iff`). Where no
date falls out of the calendar, it gives a value or lists issues (`Reading.Settled`): those of its
parts, one part after the other (`Reading.Settled.combine`).
-/

namespace ApiKeys

/-- There is a result if nothing is wrong, and otherwise no more is reported than what is. -/
def Judged {α : Type} (result : Except Failure α) (is : List Issue) : Prop :=
  if is = [] then ∃ a, result = .ok a else result = .error (.malformed is)

/-- The failure with another report of each issue. -/
def Failure.mapIssues (f : Issue → Issue) : Failure → Failure
  | .malformed is => .malformed (is.map f)
  | e => e

theorem Judged.isOk_iff {α : Type} {result : Except Failure α} {is : List Issue}
    (h : Judged result is) : (∃ a, result = .ok a) ↔ is = [] := by
  unfold Judged at h
  split at h
  · next his => simp [h, his]
  · next his => simp [h, his]

namespace Reading

variable {α β : Type}

theorem combine_eq_value_iff {rf : Reading (α → β)} {ra : Reading α} {b : β} :
    rf.combine ra = .value b ↔ ∃ f a, rf = .value f ∧ ra = .value a ∧ f a = b := by
  cases rf <;> cases ra <;> simp [combine]

theorem map_eq_value_iff {f : α → β} {r : Reading α} {b : β} :
    r.map f = .value b ↔ ∃ a, r = .value a ∧ f a = b := by
  simp [map, combine_eq_value_iff]

theorem toExcept_eq_ok_iff {r : Reading α} {a : α} : r.toExcept = .ok a ↔ r = .value a := by
  cases r <;> simp [toExcept]

/-- What is wrong with the parts that were read. -/
def faults : Reading α → List Issue
  | issues is => is
  | _ => []

/-- The reading gives a value or has an issue, and no date falls out of the calendar. -/
def Settled : Reading α → Prop
  | value _ => True
  | issues is => is ≠ []
  | outOfRange => False

/-- The reading with another report of each issue. -/
def mapIssues (f : Issue → Issue) : Reading α → Reading α
  | issues is => issues (is.map f)
  | r => r

theorem settled_issue (kind : Issue.Kind) (place : List Issue.Step) :
    (issue kind place : Reading α).Settled :=
  List.cons_ne_nil _ _

theorem Settled.combine {rf : Reading (α → β)} {ra : Reading α} (hf : rf.Settled)
    (ha : ra.Settled) :
    (rf.combine ra).Settled ∧ (rf.combine ra).faults = rf.faults ++ ra.faults := by
  cases rf <;> cases ra <;> simp_all [Reading.combine, Settled, faults]

@[simp] theorem settled_map {f : α → β} {r : Reading α} : (r.map f).Settled ↔ r.Settled := by
  cases r <;> exact Iff.rfl

@[simp] theorem faults_map (f : α → β) (r : Reading α) : (r.map f).faults = r.faults := by
  cases r <;> rfl

theorem Settled.all {rs : List (Reading α)} (h : ∀ r ∈ rs, r.Settled) : (all rs).Settled := by
  induction rs with
  | nil => trivial
  | cons r rs ih =>
    obtain ⟨hr, hrs⟩ := List.forall_mem_cons.1 h
    exact (Settled.combine (settled_map.2 hr) (ih hrs)).1

theorem Settled.judged {r : Reading α} (h : r.Settled) : Judged r.toExcept r.faults := by
  cases r with
  | value a => exact ⟨a, rfl⟩
  | issues is => rw [Judged, faults, if_neg h, toExcept]
  | outOfRange => exact h.elim

theorem mem_faults_combine {rf : Reading (α → β)} {ra : Reading α} {i : Issue}
    (h : i ∈ (rf.combine ra).faults) : i ∈ rf.faults ∨ i ∈ ra.faults := by
  cases rf <;> cases ra <;> simp_all [Reading.combine, faults]

theorem mem_faults_all {rs : List (Reading α)} {i : Issue} (h : i ∈ (all rs).faults) :
    ∃ r ∈ rs, i ∈ r.faults := by
  induction rs with
  | nil => cases h
  | cons r rs ih =>
    rcases mem_faults_combine h with h | h
    · exact ⟨r, List.mem_cons_self, by simpa using h⟩
    · obtain ⟨r', hr', hi⟩ := ih h
      exact ⟨r', List.mem_cons_of_mem r hr', hi⟩

theorem mapIssues_combine (f : Issue → Issue) (rf : Reading (α → β)) (ra : Reading α) :
    (rf.combine ra).mapIssues f = (rf.mapIssues f).combine (ra.mapIssues f) := by
  cases rf <;> cases ra <;> simp [Reading.combine, mapIssues]

theorem mapIssues_map (f : Issue → Issue) (g : α → β) (r : Reading α) :
    (r.map g).mapIssues f = (r.mapIssues f).map g :=
  mapIssues_combine f (value g) r

theorem mapIssues_eq_self {f : Issue → Issue} {r : Reading α} (h : ∀ i ∈ r.faults, f i = i) :
    r.mapIssues f = r := by
  cases r with
  | issues is => exact congrArg issues ((List.map_congr_left h).trans (List.map_id is))
  | _ => rfl

theorem toExcept_mapIssues (f : Issue → Issue) (r : Reading α) :
    (r.mapIssues f).toExcept = r.toExcept.mapError (Failure.mapIssues f) := by
  cases r <;> rfl

end Reading

end ApiKeys
