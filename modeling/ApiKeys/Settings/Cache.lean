import ApiKeys.Settings.Basic

/-!
# Cached settings

Settings are loaded from the environment once and then kept until the cache is cleared. Each load
that succeeds is numbered, so that two answers can be told to be the same settings or a new load. A
load that fails leaves nothing behind.
-/

namespace ApiKeys

/-- The settings that were loaded, with the number of the load, and the number of the next one. -/
structure SettingsCache where
  loaded : Option (Settings × Nat)
  next : Nat

namespace SettingsCache

/-- A cache that holds nothing. -/
def empty : SettingsCache := ⟨none, 0⟩

/-- The cache with nothing in it. -/
def clear (c : SettingsCache) : SettingsCache := { c with loaded := none }

/-- The cached settings, or those that the sources give now; and the cache after that. -/
def get (c : SettingsCache) (s : Settings.Sources) :
    Except Failure (Settings × Nat) × SettingsCache :=
  match c.loaded with
  | some held => (.ok held, c)
  | none =>
    match Settings.load s with
    | .error f => (.error f, c)
    | .ok settings => (.ok (settings, c.next), ⟨some (settings, c.next), c.next + 1⟩)

end SettingsCache

end ApiKeys
