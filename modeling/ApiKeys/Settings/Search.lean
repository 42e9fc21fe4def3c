import ApiKeys.Settings.Environment
import ApiKeys.Settings.Name

/-!
# Looking settings up

Arguments whose names start with an underscore are no settings. Those about variables say under
which names settings are looked up, among the variables of the environment and those of the settings
file. In the file a setting may also go by its name after the stem where that is not the name that
it is looked up under (`Search.extra?`).
-/

namespace ApiKeys.Settings

/-- How settings are looked up among the variables of the environment and the file. -/
structure Search where
  /-- What stands before a setting's name in the name of its variable. -/
  stem : Text
  /-- What stands before other names in the file. -/
  fileStem : Value
  /-- Names are told apart by case. -/
  exactCase : Bool
  /-- Variables without text count as absent. -/
  skipEmpty : Bool
  /-- The text that stands for null. -/
  nullWord : Option Text

namespace Search

/-- An argument counts as a yes. -/
def flagArgument (ms : Arguments) (name : Text) : Bool := ((ms.get? name).map Value.truth).getD false

/-- What stands before the names of settings, unless an argument says otherwise. -/
def defaultStem : Text := "AUTHKEYS_"

/-- What an argument puts before the names of settings. -/
def stemArgument (ms : Arguments) : Value :=
  match ms.get? "_env_prefix" with
  | none | some .null => .text defaultStem
  | some v => v

/-- The stem stands before the names of variables, and not before other names only. -/
def stemsVariables (ms : Arguments) : Bool :=
  match ms.get? "_env_prefix_target" with
  | none | some .null => true
  | some (.text t) => t = "variable" || t = "all"
  | some _ => false

/-- The name that no argument may have. -/
def reservedName : String := "__pydantic_self__"

/-- Judges the names of arguments. -/
def checkNames (ms : Arguments) : Except SearchFault Unit :=
  if (ms.get? (reservedName : Text)).isSome then .error (.reserved reservedName) else .ok ()

/-- Judges the arguments that are measured before anything is read: how often names are split, and
the stem. -/
def checkArguments (ms : Arguments) : Except SearchFault Unit := do
  match (ms.get? "_env_nested_max_split").getD .null with
  | .null | .bool _ | .int _ | .float _ => pure ()
  | v => if v.truth then .error (.uncountable v.kind)
  match stemArgument ms with
  | .bool b => .error (.unmeasurable (Value.bool b).kind)
  | .int i => .error (.unmeasurable (Value.int i).kind)
  | .float x => .error (.unmeasurable (Value.float x).kind)
  | .time t => .error (.unmeasurable (Value.time t).kind)
  | _ => return ()

/-- Judges what an argument puts in the place of all sources of settings: a pair, the first item of
which lists none. -/
def checkSources (v : Value) : Except SearchFault Unit :=
  match v.parts? with
  | none => .error (.notPair v.kind)
  | some [sources, _] =>
    if !sources.truth then .ok ()
    else
      match sources.parts? with
      | none => .error (.notSources sources.kind)
      | some parts => .error (.notSource ((parts.head?.map Value.kind).getD sources.kind))
  | some parts => .error (if parts.length < 2 then .tooFew parts.length else .tooMany)

/-- What stands before the names of settings. Only a text can stand there. -/
def stemOf (ms : Arguments) : Except SearchFault Text :=
  if stemsVariables ms then
    match stemArgument ms with
    | .text t => .ok t
    | _ => .error (.nameless Name.environment.text)
  else .ok []

/-- The text that stands for null. -/
def nullWordOf (ms : Arguments) : Option Text :=
  match ms.get? "_env_parse_none_str" with
  | some (.text t) => some t
  | _ => none

/-- The search that some arguments ask for. -/
def ofArguments (ms : Arguments) : Except SearchFault Search :=
  (stemOf ms).map fun stem =>
    ⟨stem, stemArgument ms, flagArgument ms "_case_sensitive", flagArgument ms "_env_ignore_empty",
      nullWordOf ms⟩

/-- The form of a name in which names are compared. -/
def folded (s : Search) (name : Text) : Text := if s.exactCase then name else name.lower

/-- The name under which a setting is looked up. -/
def key (s : Search) (n : Name) : Text := s.folded (s.stem ++ n.text)

/-- The text that some entries give to a name, the last one if case makes no difference. -/
def find? (s : Search) (name : Text) (entries : List (Text × Option Text)) : Option Text :=
  let entries := if s.skipEmpty then entries.filter fun entry => entry.2 ≠ some [] else entries
  ((entries.reverse.find? fun entry => s.folded entry.1 = name).map (·.2)).join

/-- The value that the text of a variable stands for. -/
def value (s : Search) (t : Text) : Value := if s.nullWord = some t then .null else .text t

/-! ## Other names in the file -/

/-- The text that the file gives to a setting by another name than that of its variable: its name
after the stem. -/
def extra? (s : Search) (n : Name) (bound : List (Text × Option Text)) : Option Text :=
  match s.fileStem with
  | .text stem =>
    let name := s.folded stem ++ n.text
    if stem = [] ∨ name = s.key n then none
    else (s.find? name bound).filter fun t => !t.isEmpty
  | _ => none

/-- The names of all settings. -/
def names : List Name :=
  [.environment, .debug, .logLevel, .seedDefaultKeys, .defaultAdminDescription,
    .defaultSearchDescription]

/-- Judges the stem for the other names in the file, if there are any. -/
def checkExtras (s : Search) (bound : List (Text × Option Text)) : Except SearchFault Unit :=
  let isOther := fun entry : Text × Option Text =>
    let name := s.folded entry.1
    (s.find? name bound).any (fun t => !t.isEmpty) && !(names.map s.key).contains name &&
      !(s.fileStem.truth && names.any fun n => (n.text : Text) = name)
  match s.fileStem with
  | .text _ => .ok ()
  | v =>
    if bound.any isOther then
      match v with
      | .bytes _ => .error (.notStem v.kind)
      | v => .error (if s.exactCase then .notStem v.kind else .caseless v.kind)
    else .ok ()

/-- The value that the file gives to a setting. -/
def fileValue? (s : Search) (n : Name) (bound : List (Text × Option Text)) : Option Value :=
  ((s.extra? n bound).map .text).or ((s.find? (s.key n) bound).map s.value)

end Search

end ApiKeys.Settings
