import TagRules.Dict

/-!
# Tags
-/

namespace TagRules

/-- The identity of a tag. -/
structure TagId where
  index : Nat
deriving Repr, Inhabited

instance : Numbered TagId where
  number := TagId.index
  number_injective {a b} h := by cases a; cases b; cases h; rfl

/-- A tag as the store describes it. -/
structure Tag where
  id : TagId
  name : String
  group : Option String := none
  /-- Whether the tag may carry a constraint. -/
  constrainable : Bool := true
  /-- Whether an assignment runs actions. -/
  hasActions : Bool := false
  /-- The largest number of members, 0 for no limit. -/
  maxMembers : Nat := 0
deriving DecidableEq, Repr, Inhabited

/-- An assignment has consequences beyond membership. -/
def Tag.hasSideEffects (t : Tag) : Bool :=
  t.hasActions || 0 < t.maxMembers

end TagRules
