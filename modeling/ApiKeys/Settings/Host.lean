import ApiKeys.Settings.Cache

/-!
# The host

The program that the library runs in changes its variables and asks for its settings, which are
cached. `Host.step` says what one such act does.
-/

namespace ApiKeys

/-- The variables of the host and the settings that it has loaded. -/
structure Host where
  environment : Environment
  cache : SettingsCache

/-- What a host may do about its settings. -/
inductive Host.Act where
  | set (name value : Value)
  | unset (name : Value)
  | clear
  | get

namespace Host

/-- A host that has loaded nothing. -/
def start (environment : Environment) : Host := ⟨environment, .empty⟩

/-- The settings of the host, with the number of the load that they come from. -/
def settings (h : Host) : Except Failure (Settings × Nat) × Host :=
  let (loaded, cache) := h.cache.get ⟨[], h.environment, none⟩
  (loaded, { h with cache })

/-- The host with other variables, unless they cannot be set. -/
def changed (h : Host) (environment : Except Settings.VariableFault Environment) :
    Except Failure (Option (Settings × Nat)) × Host :=
  match environment with
  | .error f => (.error (.unsettable f), h)
  | .ok environment => (.ok none, { h with environment })

/-- What one act does; only `get` has settings for an answer. -/
def step (h : Host) : Act → Except Failure (Option (Settings × Nat)) × Host
  | .set name value => h.changed (h.environment.assign name value)
  | .unset name => h.changed (h.environment.unset name)
  | .clear => (.ok none, { h with cache := h.cache.clear })
  | .get =>
    let (loaded, h) := h.settings
    (loaded.map some, h)

end Host

end ApiKeys
