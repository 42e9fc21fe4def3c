import ApiKeys.Settings.Host

/-!
# Log levels

The levels of the root logger and of the library's own logger. Configuring sets up the root logger
only while it has no handler: it first gets one, then its level. The library's logger gets the new
level each time. A level is a number or the name of one; null stands for the level of the settings,
and where these cannot be loaded nothing is configured. Any other value is refused with a message
that shows it, as far as there is room to write it.
-/

namespace ApiKeys

/-- A log level; a truth value may stand for a number, and is then kept as it is. -/
inductive Level where
  | number (i : Int)
  | truth (b : Bool)
  deriving DecidableEq

namespace Level

/-- The names of levels. -/
def names : List (String × Int) :=
  [("CRITICAL", 50), ("FATAL", 50), ("ERROR", 40), ("WARNING", 30), ("WARN", 30), ("INFO", 20),
    ("DEBUG", 10), ("NOTSET", 0)]

/-- The level with the given name. -/
def ofName? (t : Text) : Option Level :=
  (names.find? fun entry => (entry.1 : Text) = t).map fun entry => number entry.2

/-- The level that a value stands for. -/
def ofValue (room : Room) : Value → Except Failure Level
  | .int i => .ok (number i)
  | .bool b => .ok (truth b)
  | .text t =>
    match ofName? t with
    | some l => .ok l
    | none => .error (.unknownLevel t)
  | v => .error (.showing (v.literal room.literal) fun s => .levelType (Text.ofChars s))

/-- A level as a value. -/
def toValue : Level → Value
  | number i => .int i
  | truth b => .bool b

end Level

/-- The state of logging: the line formats of the root logger's handlers, and the levels of the root
logger and of the library's. -/
structure Logging where
  handlers : List String
  root : Level
  package : Level
  deriving DecidableEq

namespace Logging

/-- The format of a log line. -/
def lineFormat : String := "%(asctime)s - %(name)s - %(levelname)s - %(message)s"

/-- Logging before anything is configured: the root logger passes warnings on. -/
def initial : Logging := ⟨[], .number 30, .number 0⟩

/-- The root logger with a handler, and with the given level if it had no handler before. -/
def configureRoot (l : Logging) (level : Except Failure Level) : Logging :=
  if l.handlers = [] then
    match level with
    | .ok level => { l with handlers := [lineFormat], root := level }
    | .error _ => { l with handlers := [lineFormat] }
  else l

/-- Configures logging for the level that a value stands for. -/
def configure (l : Logging) (room : Room) (v : Value) : Except Failure Unit × Logging :=
  let l := l.configureRoot (Level.ofValue room v)
  match Level.ofValue room v with
  | .ok level => (.ok (), { l with package := level })
  | .error f => (.error f, l)

/-- Configures logging for a value, or for the settings of the host where the value is null. -/
def configureIn (l : Logging) (room : Room) (host : Host) (v : Value) :
    Except Failure Unit × Logging × Host :=
  match v with
  | .null =>
    match host.settings with
    | (.error f, host) => (.error f, l, host)
    | (.ok (settings, _), host) =>
      let (done, l) := l.configure room (.text settings.effectiveLogLevel)
      (done, l, host)
  | v =>
    let (done, l) := l.configure room v
    (done, l, host)

end Logging

end ApiKeys
