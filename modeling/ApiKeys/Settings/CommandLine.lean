import ApiKeys.Settings.CommandLine.Words
import ApiKeys.Settings.DotEnv

/-!
# The command line

Settings may come as the words of a command line, which an argument lists; other arguments say in
which style. `CommandLine.values` gives the values that the words name for settings.
-/

namespace ApiKeys.Settings.CommandLine

/-- The text of a word with the name of an option in lower case, unless options are told apart by
case. The rest of such a word ends with its line. -/
def Style.textOf (s : Style) (t : Text) : Text :=
  let inName := fun p => p ≠ .char '=' && !DotEnv.isSpace p
  let name := t.takeWhile inName
  if s.marks.isPrefixOf t ∧ s.marks.length < name.length then
    Text.lower name ++ (t.dropWhile inName).takeWhile (· ≠ .char '\n')
  else t

/-- A word. Where case makes no difference to options all words are texts, and what is empty or zero
is the empty text. -/
def Style.readWord (s : Style) (v : Value) : Except CommandLineFault Value :=
  if s.exactCase then .ok v
  else
    match v with
    | .text t => .ok (.text (s.textOf t))
    | .bytes (_ :: _) => .error .octetWord
    | v => if v.truth then .error (.notWord v.kind) else .ok (.text [])

/-- The text may stand before the names of options: it is an identifier but for points, with which
it neither starts nor ends. -/
def isStem (t : Text) : Bool :=
  let point : CodePoint := .char '.'
  t.head? ≠ some point && t.getLast? ≠ some point &&
    Identifier.isIdentifier (t.filter (· ≠ point))

/-- What stands before the names of options. -/
def stemOf (ms : Arguments) : Except CommandLineFault Text :=
  match (ms.get? "_cli_prefix").getD .null with
  | .text t =>
    if t = [] then .ok []
    else if isStem t then .ok (t ++ [.char '.'])
    else .error (.badStem t)
  | v => if v.truth then .error (.stemKind v.kind) else .ok []

/-- How the truth values among the settings are taken. -/
def flagsOf (ms : Arguments) (n : Name) : Taking :=
  if Search.flagArgument ms "_cli_implicit_flags" then
    match n.default with
    | .bool b =>
      match ms.get? "_cli_implicit_flags" with
      | some (.text t) => if t = "toggle" then .fixed !b else .spelling
      | _ => .spelling
    | _ => .word
  else .word

/-- The text that stands for null on the command line, unless there is one for variables. -/
def nullWordOf (ms : Arguments) : Option Text :=
  if Search.flagArgument ms "_env_parse_none_str" then Search.nullWordOf ms
  else
    match (ms.get? "_cli_parse_none_str").getD .null with
    | .text (p :: t) => some (p :: t)
    | v =>
      if v.truth then none
      else if Search.flagArgument ms "_cli_avoid_json" then some "None"
      else some "null"

/-- The texts that a value is or lists. -/
def textsOf : Value → List Text
  | .text t => [t]
  | .list items | .tuple items => items.filterMap fun | .text t => some t | _ => none
  | _ => []

/-- The further names of options that an argument lists. -/
def shortcutsOf (ms : Arguments) : List (Text × List Text) :=
  match (ms.get? "_cli_shortcuts").getD .null with
  | .object members =>
    members.filterMap fun
      | (.text name, v) => some (name, textsOf v)
      | _ => none
  | _ => []

/-- What marks options. No option could be told from other words without a mark. -/
def marksOf (ms : Arguments) : Except CommandLineFault Text :=
  match (ms.get? "_cli_flag_prefix_char").getD .null with
  | .text [] => .error .noMark
  | .text t => .ok t
  | .bool b => .error (.noMarks (Value.bool b).kind)
  | .int i => .error (.noMarks (Value.int i).kind)
  | .float x => .error (.noMarks (Value.float x).kind)
  | .time t => .error (.noMarks (Value.time t).kind)
  | _ => .ok [.char '-']

/-- The style that some arguments ask for. -/
def styleOf (ms : Arguments) : Except CommandLineFault Style := do
  let stem ← stemOf ms
  let marks ← marksOf ms
  return {
    marks
    stem
    hyphens := Search.flagArgument ms "_cli_kebab_case"
    flags := flagsOf ms
    shortcuts := shortcutsOf ms
    exactCase := Search.flagArgument ms "_case_sensitive"
    lenient := Search.flagArgument ms "_cli_ignore_unknown_args"
    exits := match (ms.get? "_cli_exit_on_error").getD .null with
      | .null => true
      | v => v.truth
    nullWord := nullWordOf ms }

/-- The values that the command line gives to settings, if an argument says what it is. A number
that is zero stands for none. -/
def values (ms : Arguments) : Except CommandLineFault (List (Name × Value)) :=
  match (ms.get? "_cli_parse_args").getD .null with
  | .null => .ok []
  | v => do
    let s ← styleOf ms
    match v with
    | .list items | .tuple items => s.parse (← items.mapM s.readWord)
    | .bool true => s.parse []
    | .bool false | .int 0 | .float (.finite _ 0 _) => return []
    | v => .error (.notWords v.kind)

end ApiKeys.Settings.CommandLine
