import ApiKeys.Text.Basic

/-!
# Parts of a text

A text falls into parts at each place where a mark stands. Joining the parts with the mark gives the
text back (`Text.joined_parts`).
-/

namespace ApiKeys.Text

/-- The parts of a text between the places where a character stands. -/
def parts (mark : Char) : Text → List Text
  | [] => [[]]
  | p :: t =>
    if p = .char mark then [] :: parts mark t
    else
      match parts mark t with
      | [] => [[p]]
      | part :: rest => (p :: part) :: rest

/-- Some texts with a character between each two. -/
def joined (mark : Char) : List Text → Text
  | [] => []
  | [t] => t
  | t :: ts => t ++ .char mark :: joined mark ts

theorem parts_ne_nil (mark : Char) (t : Text) : parts mark t ≠ [] := by
  cases t with
  | nil => simp [parts]
  | cons p t =>
    simp only [parts]
    split
    · simp
    · split <;> simp

theorem joined_cons_cons (mark : Char) (p : CodePoint) (t : Text) (ts : List Text) :
    joined mark ((p :: t) :: ts) = p :: joined mark (t :: ts) := by
  cases ts <;> simp [joined]

theorem joined_parts (mark : Char) (t : Text) : joined mark (parts mark t) = t := by
  induction t with
  | nil => rfl
  | cons p t ih =>
    simp only [parts]
    split
    · next h =>
      cases hp : parts mark t with
      | nil => exact absurd hp (parts_ne_nil mark t)
      | cons part rest => rw [hp] at ih; simp [joined, ih, h]
    · split
      · next hp => exact absurd hp (parts_ne_nil mark t)
      · next part rest hp => rw [joined_cons_cons, ← hp, ih]

end ApiKeys.Text
