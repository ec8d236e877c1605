import TagRules.Text.Search

/-!
# Options of a constraint

A constraint adds and removes by itself unless its options text says otherwise: with `am=1;` in it
nothing is removed, with `am=2;` nothing is added.
-/

namespace TagRules

/-- What a constraint may do by itself. -/
structure Options where
  autoAdd : Bool := true
  autoRemove : Bool := true
deriving DecidableEq, Repr, Inhabited

namespace Options

/-- Read an options text. -/
def parse (text : String) : Options :=
  ⟨!Text.occursIn "am=2;".toList text.toList, !Text.occursIn "am=1;".toList text.toList⟩

/-- The options as text. Both switches off have no text of their own. -/
def text (o : Options) : String :=
  match o.autoAdd, o.autoRemove with
  | true, false => "am=1;"
  | false, true => "am=2;"
  | _, _ => "am=0;"

end Options

end TagRules
