import ApiKeys.Settings.Environment

/-!
# Settings files

A settings file has a binding on each line: a name, an equals sign and a value. Blank lines and
lines that start with `#` bind nothing. A value may stand in single or double quotes, where a
backslash takes the next character with it; a value without quotes ends before a comment and loses
the blanks around it. A name without an equals sign is bound to nothing. Where a line is no binding,
reading goes on after it. In a value `${NAME}` stands for the value of another name, and
`${NAME:-default}` has a default for names without one.
-/

namespace ApiKeys.DotEnv

/-- The code point is white space. -/
def isSpace (p : CodePoint) : Bool :=
  (9 ≤ p.toNat && p.toNat ≤ 13) || (0x1c ≤ p.toNat && p.toNat ≤ 0x20) || p.toNat == 0x85 ||
    p.toNat == 0xa0 || p.toNat == 0x1680 || (0x2000 ≤ p.toNat && p.toNat ≤ 0x200a) ||
    p.toNat == 0x2028 || p.toNat == 0x2029 || p.toNat == 0x202f || p.toNat == 0x205f ||
    p.toNat == 0x3000

/-- The code point is white space inside a line. -/
def isBlank (p : CodePoint) : Bool := isSpace p && p != .char '\n'

/-! ## Lines -/

/-- The text with a line feed for every end of a line: a carriage return, alone or before a line
feed, is one too. -/
def unifyBreaks : Text → Text
  | [] => []
  | .char '\r' :: .char '\n' :: s => .char '\n' :: unifyBreaks s
  | .char '\r' :: s => .char '\n' :: unifyBreaks s
  | p :: s => p :: unifyBreaks s

/-- The text without the mark of its byte order. -/
def skipByteOrderMark : Text → Text
  | .char '\ufeff' :: s => s
  | s => s

/-- What is left of the current line, and what is left after it. -/
def line (s : Text) : Text × Text :=
  (s.takeWhile (· ≠ .char '\n'), (s.dropWhile (· ≠ .char '\n')).drop 1)

/-! ## Values -/

/-- Reads up to the closing quote: what is quoted, and what is left. -/
def quoted (quote : Char) : Text → Option (Text × Text)
  | [] => none
  | .char '\\' :: p :: s => (quoted quote s).map fun (v, rest) => (.char '\\' :: p :: v, rest)
  | p :: s =>
    if p = .char quote then some ([], s)
    else (quoted quote s).map fun (v, rest) => (p :: v, rest)

/-- The character that a backslash and a letter stand for in double quotes. -/
def doubleEscape? : Char → Option Char
  | '\\' => some '\\'
  | '\'' => some '\''
  | '"' => some '"'
  | 'a' => some '\x07'
  | 'b' => some '\x08'
  | 'f' => some '\x0c'
  | 'n' => some '\n'
  | 'r' => some '\r'
  | 't' => some '\t'
  | 'v' => some '\x0b'
  | _ => none

/-- The character that a backslash and a character stand for in single quotes. -/
def singleEscape? : Char → Option Char
  | '\\' => some '\\'
  | '\'' => some '\''
  | _ => none

/-- Replaces the escapes in a quoted value; other backslashes stay. -/
def unescape (escape? : Char → Option Char) : Text → Text
  | [] => []
  | .char '\\' :: .char c :: s =>
    match escape? c with
    | some d => .char d :: unescape escape? s
    | none => .char '\\' :: unescape escape? (.char c :: s)
  | p :: s => p :: unescape escape? s

/-- The text cut before its first comment: white space and then `#`. -/
def cutComment : Text → Text
  | [] => []
  | p :: s =>
    if isSpace p ∧ (s.dropWhile isSpace).head? = some (.char '#') then []
    else p :: cutComment s

/-- The text without the white space at its ends. -/
def trim (s : Text) : Text :=
  ((s.dropWhile isSpace).reverse.dropWhile isSpace).reverse

/-- Reads what stands after an equals sign: the value, and what is left. -/
def value? (s : Text) : Option (Text × Text) :=
  match s.dropWhile isBlank with
  | .char '\'' :: s => (quoted '\'' s).map fun (v, rest) => (unescape singleEscape? v, rest)
  | .char '"' :: s => (quoted '"' s).map fun (v, rest) => (unescape doubleEscape? v, rest)
  | _ => some (trim (cutComment (line s).1), s.dropWhile (· ≠ .char '\n'))

/-! ## Bindings -/

/-- Reads a name: nothing for a comment, otherwise a quoted name, or what stands before an equals
sign, `#` or white space. -/
def name? : Text → Option (Option Text × Text)
  | .char '#' :: s => some (none, .char '#' :: s)
  | .char '\'' :: s =>
    let name := s.takeWhile (· ≠ .char '\'')
    match s.dropWhile (· ≠ .char '\'') with
    | [] => none
    | _ :: rest => if name = [] then none else some (some name, rest)
  | s =>
    let stop := fun p => !(p == .char '=' || p == .char '#' || isSpace p)
    if s.takeWhile stop = [] then none else some (some (s.takeWhile stop), s.dropWhile stop)

/-- What is left after the word `export` and a blank, if a text starts with them. -/
def skipExport (s : Text) : Text :=
  let rest := s.drop 6
  if s.take 6 = ("export" : Text) ∧ (rest.head?.map isBlank).getD false then rest.dropWhile isBlank
  else s

/-- Reads an equals sign and the value after it; nothing without the sign. -/
def assigned? : Text → Option (Option Text × Text)
  | .char '=' :: s => (value? s).map fun (v, rest) => (some v, rest)
  | s => some (none, s)

/-- Reads the end of a line, before which only blanks and a comment may stand; what is left. -/
def endOfLine? (s : Text) : Option Text :=
  match s.dropWhile isBlank with
  | [] => some []
  | .char '#' :: s => some (line s).2
  | p :: s => if p = .char '\n' then some s else none

/-- A name and its value, if it has one. -/
abbrev Binding := Text × Option Text

/-- Reads one binding, if the text starts with one; what is left. What cannot be read ends with its
line. -/
def binding (s : Text) : Option Binding × Text :=
  let s := skipExport s
  match name? s with
  | none => (none, (line s).2)
  | some (name, s) =>
    let s := s.dropWhile isBlank
    match assigned? s with
    | none => (none, (line s).2)
    | some (value, s) =>
      match endOfLine? s with
      | none => (none, (line s).2)
      | some s => (name.map fun n => (n, value), s)

/-- Reads at most `count` bindings. -/
def bindings : (count : Nat) → Text → List Binding
  | 0, _ => []
  | count + 1, s =>
    match s.dropWhile isSpace with
    | [] => []
    | s => (binding s).1.toList ++ bindings count (binding s).2

/-! ## References -/

/-- Reads a reference after its opening brace: the name, the default, and what is left. -/
def reference? (s : Text) : Option ((Text × Text) × Text) :=
  let inName := fun p => p != .char '}' && p != .char ':'
  match s.dropWhile inName with
  | .char '}' :: rest => some ((s.takeWhile inName, []), rest)
  | .char ':' :: .char '-' :: rest =>
    match rest.dropWhile (· ≠ .char '}') with
    | [] => none
    | _ :: left => some ((s.takeWhile inName, rest.takeWhile (· ≠ .char '}')), left)
  | _ => none

theorem length_dropWhile_le {α : Type} (p : α → Bool) (l : List α) :
    (l.dropWhile p).length ≤ l.length :=
  (List.dropWhile_sublist p).length_le

theorem length_lt_of_reference? {s left : Text} {r : Text × Text}
    (h : reference? s = some (r, left)) : left.length < s.length := by
  have hle := length_dropWhile_le (fun p => p != .char '}' && p != .char ':') s
  simp only [reference?] at h
  split at h
  · next rest hd =>
    simp only [Option.some.injEq, Prod.mk.injEq] at h
    rw [hd, List.length_cons] at hle
    rw [← h.2]
    exact hle
  · next rest hd =>
    split at h
    · simp at h
    · next c left' hr =>
      simp only [Option.some.injEq, Prod.mk.injEq] at h
      have := length_dropWhile_le (fun p => decide (p ≠ .char '}')) rest
      rw [hd, List.length_cons, List.length_cons] at hle
      rw [hr, List.length_cons] at this
      rw [← h.2]
      omega
  · simp at h

/-- A value with every reference in it replaced by what it stands for. -/
def expand (meaning : Text × Text → Text) : Text → Text
  | [] => []
  | .char '$' :: .char '{' :: s =>
    match h : reference? s with
    | some (r, left) =>
      have : left.length < s.length := length_lt_of_reference? h
      meaning r ++ expand meaning left
    | none => .char '$' :: expand meaning (.char '{' :: s)
  | p :: s => p :: expand meaning s
termination_by s => s.length

/-- What a name with a default stands for: the value that the file has given it so far, or else that
of the variable, or else the default. A name that the file binds to nothing stands for no text. -/
def meaning (environment : Environment) (bound : List (Text × Option Text))
    (r : Text × Text) : Text :=
  match List.lookup r.1 bound with
  | some v => v.getD []
  | none => (List.lookup r.1 environment).getD r.2

/-- What a settings file binds in an environment, as setting one name after the other leaves it. A
file has no more bindings than characters. -/
def parse (environment : Environment) (s : Text) : List (Text × Option Text) :=
  let s := unifyBreaks (skipByteOrderMark s)
  (bindings s.length s).foldl
    (fun bound (name, value) =>
      Environment.set name (value.map (expand (meaning environment bound))) bound)
    []

end ApiKeys.DotEnv
