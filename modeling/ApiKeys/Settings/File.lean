import ApiKeys.Settings.DotEnv
import ApiKeys.Settings.Name
import ApiKeys.Settings.Path
import ApiKeys.Text.Encoding

/-!
# Finding and reading the settings file

Arguments say which paths lead to settings files and in which encoding these are. Of the files that
are found the first one that binds anything counts. A path that leads to no file is looked for in
the directories above, as many as an argument says; there is none there. Directories of secrets are
looked up too, but only the settings file is there, which is no directory.
-/

namespace ApiKeys.Settings.File

/-- The encoding that goes by a name. -/
def encodingNamed (name : Text) : Except FileFault Encoding :=
  match name.unencodable? fun _ => false with
  | some fault => .error (.unencodable fault)
  | none =>
    if Environment.holdsZero name then .error .encodingZero
    else
      match Encoding.ofName? name with
      | some e => .ok e
      | none =>
        if Encoding.isOctetCode name then .error (.octetCode name)
        else .error (.unknownEncoding name)

/-- The name that stands for the encoding of the system. -/
def systemEncoding : Text := "locale"

/-- The encoding of the settings file. That of the system is UTF-8. -/
def encodingOf (ms : Arguments) : Except FileFault Encoding :=
  match ms.get? "_env_file_encoding" with
  | none | some .null => .ok .utf8
  | some (.text t) => if t = systemEncoding then .ok .utf8 else encodingNamed t
  | some v => .error (.encodingType v.kind)

/-- The text of the settings file. -/
def readText (encoding : Encoding) (octets : List UInt8) : Except FileFault Text :=
  match encoding.decode octets, encoding.lacksMark? octets with
  | .error fault, _ => .error (.undecodable fault)
  | .ok _, some name => .error (.unmarked name)
  | .ok t, none => .ok t

/-- Judges how many directories above a search goes to. -/
def checkDepth (ms : Arguments) : Except FileFault Unit :=
  match ms.get? "_env_file_depth" with
  | none | some .null | some (.bool _) | some (.int _) => .ok ()
  | some (.float (.infinite true)) | some (.float (.finite true _ _)) => .ok ()
  | some (.float (.finite false 0 _)) => .ok ()
  | some (.float _) => .error .depthFraction
  | some v => .error (.depthKind v.kind)

/-- What a settings file binds. -/
abbrev Bindings := List (Text × Option Text)

/-- What the settings file binds, if there is one and a path leads to it. -/
def readPath (ms : Arguments) (environment : Environment) (file : Option (List UInt8))
    (v : Value) : Except FileFault Bindings := do
  let path ← Path.ofValue environment v
  match file, ← path.isFile with
  | some octets, true => return DotEnv.parse environment (← readText (← encodingOf ms) octets)
  | _, _ =>
    if !path.absolute then checkDepth ms
    return []

/-- The paths that an argument lists, or the one that it is. -/
def listed : Value → Except FileFault (List Value)
  | .text t => .ok [.text t]
  | v =>
    match v.parts? with
    | some parts => .ok parts
    | none => .error (.unlistable v.kind)

/-- What all files bind. -/
def bindings (ms : Arguments) (environment : Environment) (file : Option (List UInt8)) :
    Except FileFault Bindings :=
  match (ms.get? "_env_file").getD (.text ".env") with
  | .null => .ok []
  | v => do
    let bound ← (← listed v).mapM (readPath ms environment file)
    return (bound.find? fun entries => !entries.isEmpty).getD []

/-- Judges the directories of secrets, which hold none. -/
def checkSecrets (ms : Arguments) (environment : Environment) (file : Option (List UInt8)) :
    Except FileFault Unit :=
  match (ms.get? "_secrets_dir").getD .null with
  | .null => .ok ()
  | v => do
    let found ← (← (← listed v).mapM (Path.ofValue environment)).mapM Path.isFile
    if file.isSome && found.contains true then .error .notDirectory else return ()

end ApiKeys.Settings.File
