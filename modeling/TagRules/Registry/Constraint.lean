import TagRules.Expr.Compiler
import TagRules.Registry.Options

/-!
# Constraints

A constraint binds a compiled expression to the tag that it governs. Every constraint that is ever
installed has a serial number of its own, so that requests made for a constraint can be told from
requests for one that replaced it.
-/

namespace TagRules

/-- Which constraint a request is about. -/
structure ConstraintRef where
  tag : TagId
  serial : Nat
deriving DecidableEq, Repr

/-- A constraint of a tag. -/
structure Constraint where
  tag : TagId
  serial : Nat
  text : String
  optionsText : String
  enabled : Bool
  compiled : Except CompileError Compiled
  /-- The tag has side effects, so the constraints that this one depends on are settled first. -/
  mustCheck : Bool

namespace Constraint

/-- The identity of a constraint. -/
def ref (c : Constraint) : ConstraintRef :=
  ⟨c.tag, c.serial⟩

/-- What the constraint may do by itself. -/
def options (c : Constraint) : Options :=
  .parse c.optionsText

/-- The expression, if the text was compiled. -/
def expr? (c : Constraint) : Option Expr :=
  match c.compiled with
  | .ok compiled => some compiled.expr
  | .error _ => none

/-- Why the text was refused. -/
def error? (c : Constraint) : Option CompileError :=
  match c.compiled with
  | .ok _ => none
  | .error e => some e

/-- The level of the expression. -/
def level (c : Constraint) : Level :=
  match c.compiled with
  | .ok compiled => compiled.level
  | .error _ => .static

/-- The outcome can change with the run state of a subject. -/
def dependsOnState (c : Constraint) : Bool :=
  match c.compiled with
  | .ok compiled => compiled.followsState || .runningState ≤ compiled.level
  | .error _ => false

/-- The constrainable tags whose membership the expression tests. -/
def dependsOn (c : Constraint) : List TagId :=
  match c.compiled with
  | .ok compiled => compiled.dependsOn
  | .error _ => []

/-- The constraint can be applied. -/
def isReady (c : Constraint) : Bool :=
  c.expr?.isSome && c.enabled

/-- The constraint was made from this definition. -/
def hasDefinition (c : Constraint) (text options : String) (enabled : Bool) : Bool :=
  c.text == text && c.optionsText == options && c.enabled == enabled

/-- The store says that the tag has side effects. -/
def sideEffects (store : TagStore) (tag : TagId) : Bool :=
  ((store.tag? tag).map (·.hasSideEffects)).getD false

/-- Look up again whether the tag has side effects. -/
def refresh (c : Constraint) (store : TagStore) : Constraint :=
  { c with mustCheck := sideEffects store c.tag }

/-- The diagnostic of a tag whose constraint was just compiled: the reason why the text was refused,
or the last warning. -/
def diagnostic? (compiled : Except CompileError Compiled) : Option String :=
  match compiled with
  | .ok compiled => compiled.warnings.getLast?
  | .error e => some ("Invalid constraint: " ++ e.message)

/-- Compile a constraint. The diagnostic of its tag is set anew. -/
def build (store : TagStore) (serial : Nat) (tag : TagId) (text options : String)
    (enabled : Bool) : Constraint × TagStore :=
  let store := store.setDiagnostic tag none
  let compiled := compile (some store) text
  let store :=
    match diagnostic? compiled with
    | some message => store.setDiagnostic tag (some message)
    | none => store
  ({ tag, serial, text, optionsText := options, enabled, compiled,
     mustCheck := sideEffects store tag }, store)

end Constraint

end TagRules
