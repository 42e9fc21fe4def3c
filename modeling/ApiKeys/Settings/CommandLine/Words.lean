import ApiKeys.Settings.CommandLine.Choice
import ApiKeys.Text.Identifier
import ApiKeys.Value.Literal

/-!
# Words of the command line

A word that is spelled as an option is one, perhaps with its value after an equals sign; an option
of one letter may have its value, or other flags of one letter, attached. All other words are
operands. An option takes the next word only if that is an operand, and there are no operands to
give otherwise, so that others are left over, as unknown options are. `Style.parse` gives the values
that the words name for settings, or says what is wrong with them.
-/

namespace ApiKeys.Settings.CommandLine

/-- A word of the command line. -/
inductive Word where
  | operand (v : Value)
  /-- It is spelled as options are, but is none. -/
  | unknown (v : Value)
  /-- An option in one of its spellings, with what is attached to it, perhaps by an equals sign. -/
  | choice (c : Choice) (spelling : Text) (attached : Option (Bool × Text))

/-- The option with a spelling. -/
def withSpelling? (cs : List Choice) (spelling : Text) : Option Choice :=
  cs.find? fun c => c.spellings.contains spelling

/-- The text is a negative decimal, which the end of a line may follow. -/
def isNegativeNumber (t : Text) : Bool :=
  match if t.getLast? = some (.char '\n') then t.dropLast else t with
  | .char '-' :: t =>
    match t.dropWhile Identifier.isDigit with
    | .char '.' :: fraction => !fraction.isEmpty && fraction.all Identifier.isDigit
    | rest => rest.isEmpty && !t.isEmpty
  | _ => false

/-- The word that a text is. -/
def Style.wordOf (s : Style) (cs : List Choice) (t : Text) : Word :=
  let before := t.takeWhile (· ≠ .char '=')
  if !s.isMarked t then .operand (.text t)
  else
    match withSpelling? cs t with
    | some c => .choice c t none
    | none =>
      if t.length = 1 then .operand (.text t)
      else
        match (withSpelling? cs before).filter fun _ => before.length < t.length with
        | some c => .choice c before (some (true, t.drop (before.length + 1)))
        | none =>
          match withSpelling? cs (t.take 2) with
          | some c => .choice c (t.take 2) (some (false, t.drop 2))
          | none =>
            let numeral := isNegativeNumber t &&
              !(cs.any fun c => c.spellings.any isNegativeNumber)
            if numeral || t.contains (.char ' ') then .operand (.text t) else .unknown (.text t)

/-- The operand that a value other than a text is. Of a sequence the first item is looked for in the
marks. -/
def Style.operandOf (s : Style) (v : Value) : Except CommandLineFault Word :=
  let inMarks := fun t : Text =>
    (List.range (s.marks.length + 1)).any fun i => t.isPrefixOf (s.marks.drop i)
  match v with
  | .object (_ :: _) => .error .noFirst
  | .bytes (_ :: _) => .error (.notInText "int")
  | .list (.text t :: _) | .tuple (.text t :: _) =>
    if inMarks t then .error (.unhashable v.kind) else .ok (.operand v)
  | .list (first :: _) | .tuple (first :: _) => .error (.notInText first.kind)
  | v => if v.truth then .error (.notSubscriptable v.kind) else .ok (.operand v)

/-- The words of some values. Two hyphens, and what comes after them, are left over. -/
def Style.wordsOf (s : Style) (cs : List Choice) : List Value → Except CommandLineFault (List Word)
  | [] => .ok []
  | .text t :: vs =>
    if t = ("--" : Text) then .ok (.unknown (.text t) :: vs.map .unknown)
    else (wordsOf s cs vs).map (s.wordOf cs t :: ·)
  | v :: vs => do return (← s.operandOf v) :: (← wordsOf s cs vs)

/-! ## Values -/

/-- What the words give: a value for some settings, the last one if there are more, and what is left
over. -/
structure Given where
  values : List (Name × Value)
  leftOver : List Value

/-- A fault of an option. -/
def faultOf (c : Choice) (reason : Text) : CommandLineFault :=
  .usage ("argument " ++ Text.joined '/' c.spellings ++ ": " ++ reason)

/-- What an option gives, with the word that it takes. -/
def Given.take (g : Given) (c : Choice) (spelling : Text) (word : Value) :
    Except CommandLineFault Given :=
  let value : Value := match c.taking with
    | .word => word
    | .fixed b => .bool b
    | _ => .bool (spelling.take no.length ≠ no)
  match c.setting with
  | none => .error (.ended 0)
  | some n => .ok { g with values := (n, value) :: g.values }

/-- What is attached to an option, taken apart: the options with what they take, and what is left
over, or the last option, which takes the next word. -/
structure Attached where
  taken : List (Choice × Text × Value)
  leftOver : List Text
  last : Option (Choice × Text)

/-- Takes apart what is attached to an option, perhaps by an equals sign. -/
def Style.detach (s : Style) (cs : List Choice) (c : Choice) (spelling : Text) (sign : Bool)
    (t : Text) : Except CommandLineFault Attached :=
  if c.taking = .word then .ok ⟨[(c, spelling, .text t)], [], none⟩
  else
    match t with
    | [] => .error (faultOf c "ignored explicit argument ''")
    | p :: rest =>
      if s.isMarked (spelling.drop 1) ∨ sign ∨ s.isMarked t then
        .error (faultOf c ("ignored explicit argument " ++ Text.ofChars (Value.literalString t)))
      else
        let first := (c, spelling, Value.text [])
        let mark := spelling.take 1
        let short := mark ++ [p]
        match withSpelling? cs short with
        | none => .ok ⟨[first], [mark ++ t], none⟩
        | some next =>
          let onward : Except CommandLineFault Attached := match rest with
            | [] =>
              if next.taking = .word then .ok ⟨[], [], some (next, short)⟩
              else .ok ⟨[(next, short, .text [])], [], none⟩
            | .char '=' :: rest => detach s cs next short true rest
            | q :: rest => detach s cs next short false (q :: rest)
          onward.map fun a => { a with taken := first :: a.taken }
termination_by t.length

/-- What the options that were attached to one another give. -/
def Given.takeAll (g : Given) (a : Attached) : Except CommandLineFault Given :=
  (a.taken.foldlM (fun (g : Given) (c, spelling, word) => g.take c spelling word) g).map
    fun g : Given => { g with leftOver := g.leftOver ++ a.leftOver.map Value.text }

/-- What some words give, after others. -/
def Style.collect (s : Style) (cs : List Choice) (g : Given) :
    List Word → Except CommandLineFault Given
  | [] => .ok g
  | .operand v :: ws | .unknown v :: ws =>
    collect s cs { g with leftOver := g.leftOver ++ [v] } ws
  | .choice c spelling attached :: ws => do
    let a ← match attached with
      | some (sign, t) => s.detach cs c spelling sign t
      | none =>
        .ok (if c.taking = .word then ⟨[], [], some (c, spelling)⟩
          else ⟨[(c, spelling, .text [])], [], none⟩)
    match a.last, ws with
    | none, ws => collect s cs (← g.takeAll a) ws
    | some (c, spelling), .operand v :: ws =>
      collect s cs (← g.takeAll { a with taken := a.taken ++ [(c, spelling, v)] }) ws
    | some (c, _), _ => .error (faultOf c "expected one argument")

/-- How a fault in the use of options is reported. -/
def Style.reported (s : Style) (message : Text) : CommandLineFault :=
  if s.exits then .ended 2 else .usage message

/-- The value that a word stands for; null stands for none. -/
def Style.valueOf? (s : Style) : Value → Option Value
  | .null => none
  | .text t => some (if s.nullWord = some t then .null else .text t)
  | .list [] => some (.text "[]")
  | v => some v

/-- The texts of words that are left over, all of which have to be texts. -/
def leftOverTexts (vs : List Value) : Except CommandLineFault (List Text) :=
  vs.zipIdx.mapM fun
    | (.text t, _) => .ok t
    | (v, i) => .error (.notText i v.kind)

/-- What the words of a command line give. -/
def Style.parse (s : Style) (vs : List Value) : Except CommandLineFault (List (Name × Value)) := do
  let cs ← s.choices
  match s.collect cs ⟨[], []⟩ (← s.wordsOf cs vs) with
  | .error (.usage message) => .error (s.reported message)
  | .error f => .error f
  | .ok g =>
    if !g.leftOver.isEmpty ∧ !s.lenient then
      let ts ← leftOverTexts g.leftOver
      .error (s.reported ("unrecognized arguments: " ++ Text.joined ' ' ts))
    else
      return Search.names.filterMap fun n =>
        (g.values.lookup n).bind fun v => (s.valueOf? v).map fun v => (n, v)

end ApiKeys.Settings.CommandLine
