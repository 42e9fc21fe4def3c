import ApiKeys.Settings.Environment
import ApiKeys.Text.Parts

/-!
# Paths

A path names a file by steps from directory to directory: from the root, or else from where the
program runs. Steps that stay where they are do not count. A path that starts with `~` starts at the
home of a user. The settings file lies where the program runs, and no other file is known; what a
path of other steps leads to is missing.
-/

namespace ApiKeys.Settings

/-- A path. -/
structure Path where
  /-- It starts at the root. -/
  absolute : Bool
  steps : List Text
  deriving DecidableEq

namespace Path

/-- The path that a text spells. -/
def ofText (t : Text) : Path :=
  ⟨t.head? = some (.char '/'), (t.parts '/').filter fun part => part ≠ [] && part ≠ "."⟩

/-- The text of a path. -/
def text (p : Path) : Text :=
  if p.absolute then .char '/' :: Text.joined '/' p.steps
  else if p.steps = [] then "."
  else Text.joined '/' p.steps

/-! ## Homes -/

/-- The home of the administrator. -/
def administratorHome : Path := ⟨true, ["root"]⟩

/-- The users of a system besides the administrator. -/
def users : List Text :=
  ["daemon", "bin", "sys", "sync", "games", "man", "lp", "mail", "news", "uucp", "proxy",
    "www-data", "backup", "list", "irc", "_apt", "nobody"]

/-- The home of a user. -/
def homeOf (user : Text) : Except FileFault Path :=
  match user.unencodable? Environment.standsForOctet with
  | some fault => .error (.unencodable fault)
  | none =>
    if Environment.holdsZero user then .error .userZero
    else if user = "root" then .ok administratorHome
    else if users.contains user then .ok ⟨true, ["nonexistent"]⟩
    else .error .homeless

/-- The home of whoever runs the program, which a variable may name. -/
def ownHome (environment : Environment) : Except FileFault Path :=
  match List.lookup ("HOME" : Text) environment with
  | none => .ok administratorHome
  | some t =>
    if t.head? = some (.char '~') then .error .homeless
    else if t.all (· = .char '/') then .ok ⟨true, []⟩
    else .ok (ofText t)

/-- The path with the home of a user for the mark of it. -/
def expanded (p : Path) (environment : Environment) : Except FileFault Path :=
  match p.absolute, p.steps with
  | false, (.char '~' :: user) :: steps => do
    let home ← if user = [] then ownHome environment else homeOf user
    return ⟨home.absolute, home.steps ++ steps⟩
  | _, _ => .ok p

/-! ## Files -/

/-- The number of octets of a code point in a path. -/
def octetCount (p : CodePoint) : Nat :=
  if p.isSurrogate ∨ p.toNat < 0x80 then 1
  else if p.toNat < 0x800 then 2
  else if p.toNat < 0x10000 then 3
  else 4

/-- The number of octets of a text in a path. -/
def size (t : Text) : Nat := t.foldl (fun n p => n + octetCount p) 0

/-- Paths have fewer octets than this. -/
def sizeBound : Nat := 4096

/-- Steps have at most so many octets. -/
def stepBound : Nat := 255

/-- A system can be asked for the path at all. -/
def isAskable (p : Path) : Bool :=
  !Environment.holdsZero p.text && (p.text.unencodable? Environment.standsForOctet).isNone

/-- The path, or a step of it that is taken from a directory that exists, is too long. -/
def isTooLong (p : Path) : Bool :=
  isAskable p &&
    (sizeBound ≤ size p.text ||
      (p.steps.dropWhile (· = (".." : Text))).head?.any fun step => stepBound < size step)

/-- The path leads to the settings file. -/
def leadsToFile (p : Path) : Bool := !p.absolute && p.steps = [(".env" : Text)]

/-- The path that a value names, from the home of a user on. -/
def ofValue (environment : Environment) : Value → Except FileFault Path
  | .text t => (ofText t).expanded environment
  | .bytes _ => .error .octetPath
  | v => .error (.notPath v.kind)

/-- The path leads to a settings file, unless it is too long to be asked for. -/
def isFile (p : Path) : Except FileFault Bool :=
  if p.isTooLong then .error (.tooLong p.text) else .ok p.leadsToFile

end Path

end ApiKeys.Settings
