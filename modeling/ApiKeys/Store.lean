import ApiKeys.Failure
import ApiKeys.Time.Instant

/-!
# The store

The store files records under their identifiers, in the order in which the identifiers entered it.
It keeps the numbers of records and not the records themselves, so a record that is changed is
changed in the store as well. An identifier is filed at most once: inserting one that is present and
replacing one that is absent are refused. Records are listed from the oldest on, those of one
instant in the order of the store. `Store.get?` is the view through which the writes are described:
each changes what is found under its own identifier and under no other.
-/

namespace ApiKeys

/-- The number of a record, by which it is known however its parts change. -/
abbrev Handle := Nat

/-- The identifiers of the store, each with the record that is filed under it. -/
structure Store where
  entries : List (Text × Handle)
  deriving DecidableEq

namespace Store

/-- A store without records. -/
def empty : Store := ⟨[]⟩

/-- The record that is filed under an identifier. -/
def get? (s : Store) (id : Text) : Option Handle := List.lookup id s.entries

/-- A record is filed under the identifier. -/
def contains (s : Store) (id : Text) : Bool := (s.get? id).isSome

/-- The number of records in the store. -/
def size (s : Store) : Nat := s.entries.length

/-- The entries with a record filed under an identifier, in the place of the one that was filed
there before, or else at the end. -/
def putEntry (id : Text) (h : Handle) : List (Text × Handle) → List (Text × Handle)
  | [] => [(id, h)]
  | entry :: rest => if entry.1 = id then (id, h) :: rest else entry :: putEntry id h rest

/-- The store with a record filed under an identifier, whatever was filed there. -/
def put (s : Store) (id : Text) (h : Handle) : Store := ⟨putEntry id h s.entries⟩

/-- Files a record under an identifier that is not in the store. -/
def insert (s : Store) (id : Text) (h : Handle) : Except Rejection Store :=
  if s.contains id then .error (.conflict (shownId id)) else .ok (s.put id h)

/-- Files a record in the place of the one under its identifier. -/
def replace (s : Store) (id : Text) (h : Handle) : Except Rejection Store :=
  if s.contains id then .ok (s.put id h) else .error (.notFound (shownId id))

/-- The record that a value finds. A value that is no text finds none, and one that may change
cannot be looked up. -/
def find (s : Store) : Value → Except Failure (Option Handle)
  | .text id => .ok (s.get? id)
  | v =>
    match v.changeable? with
    | some kind => .error (.changeable kind)
    | none => .ok none

/-- The store without an identifier. -/
def erase (s : Store) (id : Text) : Store := ⟨s.entries.filter fun entry => entry.1 ≠ id⟩

/-- The records of the store from the oldest on, where `createdAt` tells when each was built. -/
def list (s : Store) (createdAt : Handle → Instant) : List Handle :=
  (s.entries.map (·.2)).mergeSort fun a b => createdAt a ≤ createdAt b

/-! ## Laws -/

theorem lookup_putEntry_self (id : Text) (h : Handle) (es : List (Text × Handle)) :
    List.lookup id (putEntry id h es) = some h := by
  induction es with
  | nil => simp [putEntry]
  | cons e es ih =>
    obtain ⟨a, b⟩ := e
    by_cases he : a = id
    · simp [putEntry, he]
    · have : (id == a) = false := by simpa using fun h => he h.symm
      simp [putEntry, he, List.lookup_cons, this, ih]

theorem lookup_putEntry_of_ne {id id' : Text} (hne : id' ≠ id) (h : Handle)
    (es : List (Text × Handle)) :
    List.lookup id' (putEntry id h es) = List.lookup id' es := by
  have hb : (id' == id) = false := by simpa using hne
  induction es with
  | nil => simp [putEntry, List.lookup_cons, hb]
  | cons e es ih =>
    obtain ⟨a, b⟩ := e
    by_cases he : a = id
    · simp [putEntry, he, List.lookup_cons, hb]
    · simp [putEntry, he, List.lookup_cons, ih]

@[simp] theorem get?_put_self (s : Store) (id : Text) (h : Handle) :
    (s.put id h).get? id = some h :=
  lookup_putEntry_self id h s.entries

theorem get?_put_of_ne (s : Store) {id id' : Text} (hne : id' ≠ id) (h : Handle) :
    (s.put id h).get? id' = s.get? id' :=
  lookup_putEntry_of_ne hne h s.entries

@[simp] theorem get?_erase_self (s : Store) (id : Text) : (s.erase id).get? id = none := by
  simp only [get?, erase, List.lookup_eq_none_iff, List.mem_filter, decide_eq_true_eq]
  rintro ⟨a, b⟩ ⟨-, h⟩
  simpa using fun he => h he.symm

theorem get?_erase_of_ne (s : Store) {id id' : Text} (hne : id' ≠ id) :
    (s.erase id).get? id' = s.get? id' := by
  obtain ⟨es⟩ := s
  simp only [get?, erase]
  induction es with
  | nil => rfl
  | cons e es ih =>
    obtain ⟨a, b⟩ := e
    by_cases he : a = id
    · have hb : (id' == a) = false := by simpa [he] using hne
      rw [List.filter_cons_of_neg (by simp [he]), ih, List.lookup_cons, hb]
    · rw [List.filter_cons_of_pos (by simpa using he), List.lookup_cons, List.lookup_cons, ih]

theorem list_perm (s : Store) (createdAt : Handle → Instant) :
    (s.list createdAt).Perm (s.entries.map (·.2)) :=
  List.mergeSort_perm _ _

end Store

end ApiKeys
