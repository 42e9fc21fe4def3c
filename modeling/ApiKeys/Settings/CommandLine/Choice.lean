import ApiKeys.Settings.Search
import ApiKeys.Text.Parts

/-!
# Options of the command line

There is an option for each setting, named after it, which takes the next word. A truth value may
also be asked for by a flag, which takes no word: its spelling says yes or no. A `Style` says how
options are spelled; `Style.choices` are the options in a style.
-/

namespace ApiKeys.Settings.CommandLine

/-- What an option takes. -/
inductive Taking where
  /-- The next word. -/
  | word
  /-- Nothing; the spelling says yes or no. -/
  | spelling
  /-- Nothing; it stands for one truth value. -/
  | fixed (b : Bool)
  /-- Nothing; it asks for help. -/
  | help
  deriving DecidableEq

/-- An option. -/
structure Choice where
  spellings : List Text
  /-- The setting that it gives a value to. -/
  setting : Option Name
  taking : Taking
  deriving DecidableEq

/-- How options are spelled and what is done about words that are left over. -/
structure Style where
  /-- What options start with, twice, cut to the length of their names: each of its characters marks
  a word as an option. -/
  marks : Text
  /-- What stands before the names of settings. -/
  stem : Text
  /-- Words of a name have hyphens between them. -/
  hyphens : Bool
  /-- How truth values are taken. -/
  flags : Name → Taking
  /-- Further names of options. -/
  shortcuts : List (Text × List Text)
  /-- Options are told apart by case. -/
  exactCase : Bool
  /-- Words that are left over are no fault. -/
  lenient : Bool
  /-- A fault ends the program. -/
  exits : Bool
  /-- The text that stands for null. -/
  nullWord : Option Text

/-- The option that asks for help, which starts with one of the marks, with a hyphen if it is one.
-/
def Style.help (s : Style) : Choice :=
  let mark := if s.marks.contains (.char '-') then [.char '-'] else s.marks.take 1
  ⟨[mark ++ ("h" : Text), mark ++ mark ++ ("help" : Text)], none, .help⟩

/-- How an option with a name is spelled. -/
def Style.spelled (s : Style) (name : Text) : Text := (s.marks ++ s.marks).take name.length ++ name

/-- The text starts with a mark. -/
def Style.isMarked (s : Style) (t : Text) : Bool := t.head?.any s.marks.contains

/-- What makes a flag say no. -/
def no : Text := "--no-"

/-- The spellings of a flag that may say no, for one that says yes. -/
def withNo (spelling : Text) : List Text :=
  if spelling.take 2 = ("--" : Text) then [spelling, no ++ spelling.drop 2] else [spelling]

/-- The name of the option for a setting. -/
def Style.nameOf (s : Style) (n : Name) : Text :=
  s.stem ++ (n.text : Text).map fun p => if s.hyphens ∧ p = .char '_' then .char '-' else p

/-- The names of the option for a setting: its own and the shortcuts for it, but for those that are
taken. -/
def Style.namesOf (s : Style) (taken : List Text) (n : Name) : List Text :=
  let own := if taken.contains (s.nameOf n) then [] else [s.nameOf n]
  own ++ (s.shortcuts.filter fun shortcut => own.contains shortcut.1).flatMap fun shortcut =>
    shortcut.2.filter fun name => !taken.contains name

/-- The spellings of an option with some names. -/
def Style.spellingsOf (s : Style) (taking : Taking) (names : List Text) : List Text :=
  match taking with
  | .spelling => names.flatMap fun name => withNo (s.spelled name)
  | .fixed false => names.map fun name => s.marks ++ s.marks ++ ("no-" : Text) ++ name
  | _ => names.map s.spelled

/-- The options for some settings, after others; the names of those are taken. -/
def Style.choicesFor (s : Style) (taken : List Text) (before : List Choice) :
    List Name → Except CommandLineFault (List Choice)
  | [] => .ok before
  | n :: ns =>
    let names := s.namesOf taken n
    let choice : Choice := ⟨s.spellingsOf (s.flags n) names, some n, s.flags n⟩
    let known := before.flatMap Choice.spellings
    match choice.spellings.filter known.contains with
    | spelling :: _ =>
      .error (.conflict (Text.joined '/' choice.spellings) spelling)
    | [] =>
      choicesFor s (taken ++ names) (if names = [] then before else before ++ [choice]) ns

/-- The options. -/
def Style.choices (s : Style) : Except CommandLineFault (List Choice) :=
  s.choicesFor [] [s.help] Search.names

end ApiKeys.Settings.CommandLine
