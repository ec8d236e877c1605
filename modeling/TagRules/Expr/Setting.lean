import TagRules.Text.Blank

/-!
# Settings

The settings of the application that an expression may read. A setting has a key, as written in
expressions, and a parameter, as the application calls it.
-/

namespace TagRules

/-- A setting that holds a number. -/
structure Setting where
  key : String
  parameter : String
deriving DecidableEq, Repr

namespace Setting

/-- The settings that may be read. -/
def all : List Setting :=
  [⟨"queue.seeding.ignore.share.ratio", "Stop Ratio"⟩]

/-- The setting of a key in any case. -/
def ofKey? (key : String) : Option Setting :=
  all.find? fun s => Text.eqIgnoringCase s.key.toList key.toList

end Setting

end TagRules
