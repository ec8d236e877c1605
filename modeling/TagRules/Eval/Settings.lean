import TagRules.Expr.Setting
import TagRules.Number.Double

/-!
# Reading settings through a cache

The application answers for a parameter with a number or nothing. A number that was read is kept
under the key it was asked by until its lifetime is over or the cache is dropped; that there is none
is not remembered.
-/

namespace TagRules

/-- The parameters of the application. -/
abbrev ConfigSource := String → Option Double

/-- A number that was read, and when. -/
structure CachedSetting where
  key : String
  value : Double
  readAt : Nat
deriving DecidableEq, Repr

/-- The numbers that were read. Times and the lifetime are in nanoseconds of a steady clock. -/
structure SettingsCache where
  lifetime : Nat := 60000000000
  entries : List CachedSetting := []
deriving Inhabited

/-- Why a setting cannot be read. -/
inductive SettingError where
  | unknownKey (key : String)
  | noValue (key : String)
deriving DecidableEq, Repr

/-- The wording. -/
def SettingError.message : SettingError → String
  | unknownKey key => "Unsupported configuration parameter: " ++ key
  | noValue key => "Error getting config value for '" ++ key ++ "'"

namespace SettingsCache

/-- The number that is kept for a key and has not expired. -/
def cached? (c : SettingsCache) (ticks : Nat) (key : String) : Option Double :=
  (c.entries.find? fun e => e.key == key && ticks - e.readAt < c.lifetime).map (·.value)

/-- Keep a number for a key. -/
def keep (c : SettingsCache) (ticks : Nat) (key : String) (value : Double) : SettingsCache :=
  { c with entries := ⟨key, value, ticks⟩ :: c.entries.filter (·.key != key) }

/-- Drop everything. -/
def invalidate (c : SettingsCache) : SettingsCache :=
  { c with entries := [] }

/-- Read a setting. -/
def get (c : SettingsCache) (source : Option ConfigSource) (ticks : Nat) (key : String) :
    Except SettingError Double × SettingsCache :=
  match c.cached? ticks key with
  | some value => (.ok value, c)
  | none =>
    match Setting.ofKey? key with
    | none => (.error (.unknownKey key), c)
    | some setting =>
      match source.bind (· setting.parameter) with
      | none => (.error (.noValue key), c)
      | some value => (.ok value, c.keep ticks key value)

end SettingsCache

end TagRules
