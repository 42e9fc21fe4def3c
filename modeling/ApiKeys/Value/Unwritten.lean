import ApiKeys.Value.Basic

/-!
# Values without a text

Not every value can be written. A numeral has at most so many digits, and a writer goes down into
what a value holds only as far as it has room: each writer is given the number of levels that it may
still open, and how many those are depends on where it is called.
-/

namespace ApiKeys

/-- Why a value has no text. -/
inductive Unwritten where
  /-- A whole number has too many digits. -/
  | digits
  /-- There is no room for all levels of a value; the words say what was being done. -/
  | nesting (doing : String)
  deriving DecidableEq

/-- The text of the failure to write a value. -/
def Unwritten.message : Unwritten → Text
  | digits => "Exceeds the limit (4300 digits) for integer string conversion; use " ++
      "sys.set_int_max_str_digits() to increase the limit"
  | nesting doing => "maximum recursion depth exceeded" ++ doing

/-- The levels that the two writers of values may open. -/
structure Room where
  json : Nat
  literal : Nat
  deriving DecidableEq

namespace Value

/-- The most digits that a numeral may have. -/
def digitLimit : Nat := 4300

/-- A whole number that has a numeral. -/
def IsShort (i : Int) : Prop := (Nat.toDigits 10 i.natAbs).length ≤ digitLimit

instance (i : Int) : Decidable (IsShort i) := by unfold IsShort; infer_instance

/-- The numeral of a whole number. -/
def numeral (i : Int) : Except Unwritten (List Char) :=
  if IsShort i then .ok (Digits.ofInt i) else .error .digits

end Value

end ApiKeys
