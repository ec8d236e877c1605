import TagRules.Expr.Compiler

/-!
# Trees that the compiler could have built

`Expr.Formed` are the trees that may stand within others and have the shape that the compiler
requires: literals stand below negations only, and calls have arguments that their functions take.
What the arguments that are no expressions must be like is left open. The compiler also looks up the
pattern of a call; `Expr.prepared` is the tree with these.
-/

namespace TagRules

/-- The pattern that a call is prepared with. -/
def Builtin.pattern? : Builtin → List Operand → Option Pattern
  | .matching, [_, .text source] => (Pattern.read source).toOption
  | _, _ => none

mutual

/-- The expression with the patterns that its calls are prepared with. -/
def Expr.prepared : Expr → Expr
  | .literal v => .literal v
  | .not e => .not e.prepared
  | .or es => .or (exprsPrepared es)
  | .and es => .and (exprsPrepared es)
  | .xor es => .xor (exprsPrepared es)
  | .call f name args _ => .call f name (operandsPrepared args) (f.pattern? args)

/-- Several expressions with the patterns that their calls are prepared with. -/
def exprsPrepared : List Expr → List Expr
  | [] => []
  | e :: es => e.prepared :: exprsPrepared es

/-- The argument with the patterns that its calls are prepared with. -/
def Operand.prepared : Operand → Operand
  | .expr e => .expr e.prepared
  | a => a

/-- Several arguments with the patterns that their calls are prepared with. -/
def operandsPrepared : List Operand → List Operand
  | [] => []
  | a :: args => a.prepared :: operandsPrepared args

end

/-- Names of networks and keys of settings are spelled as the compiler spells them. -/
def Builtin.Spelled : Builtin → List Operand → Prop
  | .hasNet, [.text net] => network? net = some net
  | .getConfig, [.text key] => (Setting.ofKey? key).map (·.key) = some key
  | _, _ => True

/-- A tree that may stand within another one, with arguments that satisfy a condition. -/
inductive Expr.Formed (leaf : Operand → Prop) : Expr → Prop
  | notLiteral (b : Bool) : Formed leaf (.not (.literal (.bool b)))
  | not {e} (inner : Formed leaf e) (kind : e.kind = .bool) : Formed leaf (.not e)
  | combination {separator combine es} (mem : (separator, combine) ∈ Compile.combinations)
    (several : 2 ≤ es.length) (each : ∀ e ∈ es, Formed leaf e) (kinds : ∀ e ∈ es, e.kind = .bool) :
    Formed leaf (combine es)
  | call {f name args p} (named : Builtin.ofName? name = some f)
    (fit : Compile.fits f.signature args = true)
    (numeric : Compile.notNumeric? f.signature args = none) (spelled : f.Spelled args)
    (leaves : ∀ a ∈ args, leaf a) (nested : ∀ e, .expr e ∈ args → Formed leaf e) :
    Formed leaf (.call f name args p)

/-- The condition on arguments may be weakened. -/
theorem Expr.Formed.imp {leaf leaf' : Operand → Prop} (le : ∀ a, leaf a → leaf' a) {e : Expr}
    (h : e.Formed leaf) : e.Formed leaf' := by
  induction h with
  | notLiteral b => exact .notLiteral b
  | not _ kind ih => exact .not ih kind
  | combination mem several _ kinds ih => exact .combination mem several ih kinds
  | call named fit numeric spelled leaves _ ih =>
    exact .call named fit numeric spelled (fun a mem => le a (leaves a mem)) ih

theorem exprsPrepared_eq (es : List Expr) : exprsPrepared es = es.map (·.prepared) := by
  induction es with
  | nil => rfl
  | cons e es ih => rw [exprsPrepared, ih]; rfl

theorem operandsPrepared_eq (args : List Operand) : operandsPrepared args = args.map (·.prepared) := by
  induction args with
  | nil => rfl
  | cons a args ih => rw [operandsPrepared, ih]; rfl

theorem exprsChars_eq (es : List Expr) : exprsChars es = es.map (·.chars) := by
  induction es with
  | nil => rfl
  | cons e es ih => rw [exprsChars, ih]; rfl

theorem operandsChars_eq (args : List Operand) : operandsChars args = args.map (·.chars) := by
  induction args with
  | nil => rfl
  | cons a args ih => rw [operandsChars, ih]; rfl

namespace Expr

theorem kind_prepared (e : Expr) : e.prepared.kind = e.kind := by
  cases e <;> rfl

variable {separator : List Char} {combine : List Expr → Expr}

theorem chars_combine (mem : (separator, combine) ∈ Compile.combinations) (es : List Expr) :
    (combine es).chars = '(' :: joinWith separator (es.map (·.chars)) ++ [')'] := by
  cases Compile.Combination.of_mem mem <;> rw [Expr.chars, exprsChars_eq]

theorem prepared_combine (mem : (separator, combine) ∈ Compile.combinations) (es : List Expr) :
    (combine es).prepared = combine (es.map (·.prepared)) := by
  cases Compile.Combination.of_mem mem <;> rw [Expr.prepared, exprsPrepared_eq]

theorem kind_combine (mem : (separator, combine) ∈ Compile.combinations) (es : List Expr) :
    (combine es).kind = .bool := by
  cases Compile.Combination.of_mem mem <;> rfl

end Expr

end TagRules
