import ApiKeys.Reading
import ApiKeys.Settings.CommandLine
import ApiKeys.Settings.File
import ApiKeys.Text.Uppercase
import ApiKeys.Value.Lenient

/-!
# Settings

Six settings, each of which takes its value from the first source that names it: the command line,
the arguments of the call, the environment, the settings file, the default. Only the value that a
setting takes is judged. Loading succeeds when all six values are good, and otherwise lists one
issue for each bad one, in the order of the settings. Arguments whose names start with an underscore
are no settings: they say how variables are looked up (`Settings.Search`), which files are read
(`Settings.File`), and what the command line is (`Settings.CommandLine`).
-/

namespace ApiKeys

/-- Where the library runs. -/
inductive Deployment where
  | development
  | testing
  | production
  deriving DecidableEq

namespace Deployment

/-- The kinds of deployment. -/
def list : List Deployment := [development, testing, production]

/-- The name of a deployment in settings. -/
def name : Deployment → String
  | development => "development"
  | testing => "testing"
  | production => "production"

/-- The deployment with the given name. -/
def ofText? (t : Text) : Option Deployment :=
  list.find? fun d => (d.name : Text) = t

end Deployment

/-- The settings of the library. -/
structure Settings where
  environment : Deployment
  debug : Bool
  logLevel : Text
  seedDefaultKeys : Bool
  defaultAdminDescription : Text
  defaultSearchDescription : Text
  deriving DecidableEq

namespace Settings

/-- The sources of settings, beside the defaults. -/
structure Sources where
  arguments : Arguments
  environment : Environment
  /-- The octets of the settings file, if there is one. -/
  file : Option (List UInt8)

/-- The value that an argument gives to a setting. Case makes no difference to the names of
arguments, and of those that name one setting the first counts. -/
def argument? (ms : Arguments) (n : Name) : Option Value :=
  (ms.find? fun m => m.1.lower = (n.text : Text)).map (·.2)

/-- What is known of the sources once they have been read. -/
structure Known where
  /-- What the command line gives. -/
  given : List (Name × Value)
  /-- What the settings file binds. -/
  bound : File.Bindings
  search : Search

/-- The value that a setting takes. -/
def Sources.raw (s : Sources) (k : Known) (n : Name) : Value :=
  let entries : List (Text × Option Text) := s.environment.map fun (name, t) => (name, some t)
  ((List.lookup n k.given).or <| (argument? s.arguments n).or <|
    ((k.search.find? (k.search.key n) entries).map k.search.value).or <|
    k.search.fileValue? n k.bound).getD n.default

/-- The text is one of some words, in any case. -/
def isWord (words : List String) (t : Text) : Bool :=
  words.any fun w => (w : Text) = t.map fun
    | .char c => .char c.toLower
    | p => p

/-- A truth value that a text spells. -/
def readWord (t : Text) : Except Issue.Kind Bool :=
  if t.chars?.isNone then .error .stringUnicode
  else if isWord ["1", "on", "t", "true", "y", "yes"] t then .ok true
  else if isWord ["0", "off", "f", "false", "n", "no"] t then .ok false
  else .error .boolParsing

/-- The bound of the numbers that have 64 bits with their sign; others are never truth values. -/
def numberLimit : Nat := 0x8000000000000000

/-- A truth value; numbers stand for one if they are zero or one. -/
def readBool : Value → Except Issue.Kind Bool
  | .bool b => .ok b
  | .int i =>
    if i = 0 then .ok false
    else if i = 1 then .ok true
    else if -(numberLimit : Int) ≤ i ∧ i < numberLimit then .error .boolParsing
    else .error .boolType
  | .float (.finite _ 0 _) => .ok false
  | .float (.finite negative digits exponent) =>
    if exponent < 0 ∨ numberLimit ≤ digits * Nat.pow 10 exponent.toNat then .error .boolType
    else if negative = false ∧ digits = 1 ∧ exponent = 0 then .ok true
    else .error .boolParsing
  | .text t => readWord t
  | .bytes octets =>
    match Text.ofUtf8? octets with
    | some t => readWord t
    | none => .error .boolParsing
  | _ => .error .boolType

/-- A kind of deployment, by its exact name. -/
def readDeployment : Value → Except Issue.Kind Deployment
  | .text t =>
    if t.chars?.isNone then .error .stringUnicode
    else
      match Deployment.ofText? t with
      | some d => .ok d
      | none => .error .literalError
  | _ => .error .literalError

/-- Reads one setting from the value that it takes. -/
def readSetting {α : Type} (raw : Name → Value) (n : Name) (read : Value → Except Issue.Kind α) :
    Reading α :=
  match read (raw n) with
  | .ok a => .value a
  | .error kind => .issue kind [.member n.text]

/-- Reads all settings from the values that they take. -/
def reading (raw : Name → Value) : Reading Settings :=
  (readSetting raw .environment readDeployment).map Settings.mk
    |>.combine (readSetting raw .debug readBool)
    |>.combine (readSetting raw .logLevel Value.asText)
    |>.combine (readSetting raw .seedDefaultKeys readBool)
    |>.combine (readSetting raw .defaultAdminDescription Value.asText)
    |>.combine (readSetting raw .defaultSearchDescription Value.asText)

/-- Reads the sources: the settings file and the command line, before anything is looked up. -/
def Sources.known (s : Sources) : Except Failure Known := do
  (Search.checkArguments s.arguments).mapError .unsearchable
  let bound ← (File.bindings s.arguments s.environment s.file).mapError .unreadable
  let given ← (CommandLine.values s.arguments).mapError .unparsable
  let search ← (Search.ofArguments s.arguments).mapError .unsearchable
  (search.checkExtras bound).mapError .unsearchable
  (File.checkSecrets s.arguments s.environment s.file).mapError .unreadable
  return ⟨given, bound, search⟩

/-- The settings that some sources give, unless an argument puts others in their place, which name
none. -/
def load (s : Sources) : Except Failure Settings := do
  (Search.checkNames s.arguments).mapError .unsearchable
  match (s.arguments.get? "_build_sources").getD .null with
  | .null =>
    let known ← s.known
    (reading (s.raw known)).toExcept
  | v =>
    (Search.checkSources v).mapError .unsearchable
    (reading Name.default).toExcept

/-- The log level to apply: debugging mode forces the most detailed one. -/
def effectiveLogLevel (s : Settings) : Text :=
  if s.debug then "DEBUG" else s.logLevel.upper

/-- The settings and what follows from them, as an object. -/
def toValue (s : Settings) : Value :=
  let entry (n : Name) (v : Value) : Value × Value := (n.text, v)
  .object [
    entry .environment (.text s.environment.name),
    entry .debug (.bool s.debug),
    entry .logLevel (.text s.logLevel),
    entry .seedDefaultKeys (.bool s.seedDefaultKeys),
    entry .defaultAdminDescription (.text s.defaultAdminDescription),
    entry .defaultSearchDescription (.text s.defaultSearchDescription),
    ("is_development", .bool (s.environment = .development)),
    ("is_testing", .bool (s.environment = .testing)),
    ("effective_log_level", .text s.effectiveLogLevel)]

end Settings

end ApiKeys
