/-!
# Texts

A text is a list of code points. A surrogate may stand alone in a text, so a code point is either
a character or a lone surrogate. The grammars of timestamps and settings speak about characters
only: `Text.chars?` gives the characters of a text in which no surrogate stands alone, and
`Text.chars?_eq_some_iff` says that it loses nothing.
-/

namespace ApiKeys

/-- A code point: a character, or a surrogate that stands alone. -/
inductive CodePoint where
  | char (c : Char)
  | surrogate (index : Fin 2048)
  deriving DecidableEq

namespace CodePoint

/-- The number of a code point. -/
def toNat : CodePoint → Nat
  | char c => c.toNat
  | surrogate i => 0xD800 + i.val

/-- The code point is a surrogate that stands alone. -/
def isSurrogate : CodePoint → Bool
  | char _ => false
  | surrogate _ => true

/-- The code point of a number below `0x110000`. -/
def ofNat? (n : Nat) : Option CodePoint :=
  if h : n.isValidChar then some (char (Char.ofNatAux n h))
  else if h : n - 0xD800 < 2048 then some (surrogate ⟨n - 0xD800, h⟩)
  else none

end CodePoint

/-- A text: its code points in order. -/
abbrev Text := List CodePoint

namespace Text

/-- The text with the given characters. -/
def ofChars (cs : List Char) : Text := cs.map .char

/-- The text with the characters of a string. -/
def ofString (s : String) : Text := ofChars s.toList

instance : Coe String Text := ⟨ofString⟩

/-- The characters of a text in which no surrogate stands alone. -/
def chars? : Text → Option (List Char)
  | [] => some []
  | .char c :: t => (chars? t).map (c :: ·)
  | .surrogate _ :: _ => none

theorem chars?_ofChars (cs : List Char) : chars? (ofChars cs) = some cs := by
  induction cs with
  | nil => rfl
  | cons c cs ih => simpa [ofChars, chars?] using ih

theorem chars?_eq_some_iff {t : Text} {cs : List Char} : chars? t = some cs ↔ t = ofChars cs := by
  constructor
  · intro h
    induction t generalizing cs with
    | nil => simp_all [chars?, ofChars]
    | cons p t ih =>
      cases p with
      | surrogate i => simp [chars?] at h
      | char c =>
        obtain ⟨ds, hds, rfl⟩ := Option.map_eq_some_iff.1 h
        simp [ih hds, ofChars]
  · rintro rfl
    exact chars?_ofChars cs

theorem ofChars_injective {cs ds : List Char} (h : ofChars cs = ofChars ds) : cs = ds := by
  simpa [chars?_ofChars] using congrArg chars? h

/-- The text that a sequence of octets encodes, where the octets are valid UTF-8. -/
def ofUtf8? (octets : List UInt8) : Option Text :=
  (String.fromUTF8? ⟨octets.toArray⟩).map ofString

end Text

end ApiKeys
