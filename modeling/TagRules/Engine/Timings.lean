import TagRules.Toml.Settings

/-!
# Timings of the engine

The intervals that a settings file may change, each of them optional, and their text as TOML.
-/

namespace TagRules

/-- The intervals by which the engine works. -/
structure Timings where
  /-- The period of the pass over the whole population. -/
  reapplySeconds : Nat := 30
  /-- The least time between two deliveries of staged state changes. -/
  spacingMillis : Nat := 5000
  /-- The least time between two automatic additions of a subject to a tag. -/
  cooldownMillis : Nat := 1000
  /-- How long settings that were read are kept. -/
  settingSeconds : Nat := 60
  /-- The window of activity averages. -/
  activitySeconds : Nat := 60
deriving DecidableEq, Repr, Inhabited

namespace Timings

/-- The keys in the order in which they are written. -/
def keys : List String :=
  ["reapply_interval_secs", "state_change_spacing_ms", "add_cooldown_ms", "config_cache_ttl_secs",
    "activity_window_secs"]

/-- The intervals in the order of the keys. -/
def values (t : Timings) : List Nat :=
  [t.reapplySeconds, t.spacingMillis, t.cooldownMillis, t.settingSeconds, t.activitySeconds]

/-- Intervals in TOML. -/
def ofToml? (t : Toml) : Option Timings := do
  let entries ← t.entries? keys
  let interval (key : String) (default : Nat) := Toml.entryOr entries key Toml.toNat? default
  return {
    reapplySeconds := ← interval "reapply_interval_secs" 30
    spacingMillis := ← interval "state_change_spacing_ms" 5000
    cooldownMillis := ← interval "add_cooldown_ms" 1000
    settingSeconds := ← interval "config_cache_ttl_secs" 60
    activitySeconds := ← interval "activity_window_secs" 60 }

/-- The intervals in a TOML text. -/
def read? (text : String) : Option Timings :=
  (Toml.readSettings? text).bind ofToml?

/-- The intervals as TOML, one line each. An interval beyond the integers of TOML has no text. -/
def write? (t : Timings) : Option String :=
  if t.values.all (· < Nat.pow 2 63) then
    some (String.join ((keys.zip t.values).map fun (key, n) => key ++ " = " ++ toString n ++ "\n"))
  else none

end Timings

end TagRules
