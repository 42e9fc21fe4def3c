import ApiKeys.Value.Basic

/-!
# Names of settings

Each setting has a name, and a value that it takes when no source names it. Sources that are handed
in are arguments, each with its name.
-/

namespace ApiKeys.Settings

/-- Values that are handed in by name. -/
abbrev Arguments := List (Text × Value)

/-- The argument of the given name. -/
def Arguments.get? (as : Arguments) (name : Text) : Option Value := List.lookup name as

/-- The name of a setting. -/
inductive Name where
  | environment
  | debug
  | logLevel
  | seedDefaultKeys
  | defaultAdminDescription
  | defaultSearchDescription
  deriving DecidableEq

/-- The spelling of a setting's name. -/
def Name.text : Name → String
  | environment => "environment"
  | debug => "debug"
  | logLevel => "log_level"
  | seedDefaultKeys => "seed_default_keys"
  | defaultAdminDescription => "default_admin_description"
  | defaultSearchDescription => "default_search_description"

/-- The value of a setting that no source names. -/
def Name.default : Name → Value
  | environment => .text "development"
  | debug => .bool false
  | logLevel => .text "INFO"
  | seedDefaultKeys => .bool true
  | defaultAdminDescription =>
    .text ("Default Admin API Key (Use it for all other operations. " ++
      "Caution! Do not use it on a public frontend)" : String)
  | defaultSearchDescription =>
    .text "Default Search API Key (Use it to search from the frontend)"

end ApiKeys.Settings
