import TagRules.Proofs.Eval.Reading

/-!
# Operands on their own

`Expr.alone` evaluates every operand of every combination from the same state, and combines the
outcomes as a disjunction, a conjunction or a parity. What an evaluation can see does not change
while it runs, so this is the value of the expression (`Expr.alone_eq_reading`), and operands may
change places anywhere in it (`Expr.Shuffled.reading_eq`).
-/

namespace TagRules

/-- An odd number of conditions hold. -/
def parity (bs : List Bool) : Bool :=
  bs.count true % 2 = 1

theorem parity_cons (b : Bool) (bs : List Bool) : parity (b :: bs) = (b != parity bs) := by
  unfold parity
  cases b with
  | false => simp
  | true =>
    rw [List.count_cons_self]
    by_cases odd : bs.count true % 2 = 1
    · have even : ¬(bs.count true + 1) % 2 = 1 := by omega
      simp [odd, even]
    · have even : (bs.count true + 1) % 2 = 1 := by omega
      simp [odd, even]

theorem parity_eq_foldr (bs : List Bool) : parity bs = bs.foldr (· != ·) false := by
  induction bs with
  | nil => rfl
  | cons b bs ih => rw [parity_cons, ih, List.foldr_cons]

theorem parity_perm {bs bs' : List Bool} (perm : bs.Perm bs') : parity bs = parity bs' := by
  simp only [parity, perm.count_eq]

mutual

/-- Every exclusive or in an expression has at least two operands. -/
def Expr.paired : Expr → Bool
  | .literal _ => true
  | .not e => e.paired
  | .or es => exprsPaired es
  | .and es => exprsPaired es
  | .xor es => 2 ≤ es.length && exprsPaired es
  | .call _ _ args _ => operandsPaired args

/-- Every exclusive or in several expressions has at least two operands. -/
def exprsPaired : List Expr → Bool
  | [] => true
  | e :: es => e.paired && exprsPaired es

/-- Every exclusive or in an argument has at least two operands. -/
def Operand.paired : Operand → Bool
  | .expr e => e.paired
  | _ => true

/-- Every exclusive or in several arguments has at least two operands. -/
def operandsPaired : List Operand → Bool
  | [] => true
  | a :: args => a.paired && operandsPaired args

end

mutual

/-- The value of an expression whose operands are all evaluated from one state. -/
def Expr.alone (sc : Scene) (s : EvalState) : Expr → Value
  | .literal v => v
  | .not e => .bool !(e.alone sc s).truth
  | .or es => .bool ((truthsAlone sc s es).any id)
  | .and es => .bool ((truthsAlone sc s es).all id)
  | .xor es => .bool (parity (truthsAlone sc s es))
  | .call f _ args p =>
    match f.signature with
    | .numbers =>
      match amountsAlone sc s args with
      | x :: y :: _ => .bool (Eval.compare f x y)
      | _ => .bool false
    | .quantity =>
      .number (((amountsAlone sc s args).head?.getD .zero).mul
        (.ofNat (f.secondsPerUnit?.getD 0))).trunc
    | _ => ((Eval.plainCall sc f args p).run s).1

/-- The truth of each of several conditions from one state. -/
def truthsAlone (sc : Scene) (s : EvalState) : List Expr → List Bool
  | [] => []
  | e :: es => (e.alone sc s).truth :: truthsAlone sc s es

/-- The number that an argument stands for in one state. -/
def Operand.alone (sc : Scene) (s : EvalState) : Operand → Double
  | .expr e => (e.alone sc s).toNumber
  | a => ((a.amount sc).run s).1

/-- The numbers that several arguments stand for in one state. -/
def amountsAlone (sc : Scene) (s : EvalState) : List Operand → List Double
  | [] => []
  | a :: args => a.alone sc s :: amountsAlone sc s args

end

open Eval

mutual

/-- Evaluated from one state, every operand has the value that can be read from what is seen there. -/
theorem Expr.alone_eq_reading (sc : Scene) (s : EvalState) :
    ∀ e : Expr, e.paired = true →
      e.alone sc s = e.reading sc (s.services.view sc.world sc.subject)
  | .literal v, _ => by simp only [Expr.alone, Expr.reading]
  | .not e, paired => by simp only [Expr.alone, Expr.reading, e.alone_eq_reading sc s paired]
  | .or es, paired => by simp only [Expr.alone, Expr.reading, truthsAlone_eq sc s es paired]
  | .and es, paired => by simp only [Expr.alone, Expr.reading, truthsAlone_eq sc s es paired]
  | .xor es, paired => by
    obtain ⟨enough, paired⟩ := (Bool.and_eq_true _ _).mp paired
    simp only [Expr.alone, Expr.reading, truthsAlone_eq sc s es paired, enough, Bool.true_and,
      parity_eq_foldr]
  | .call f name args p, paired => by
    have values := amountsAlone_eq sc s args paired
    have fact := (plainCall_reads sc f args p).result s
    rw [Expr.reading, Expr.alone, values, fact]
    rfl

theorem truthsAlone_eq (sc : Scene) (s : EvalState) :
    ∀ es : List Expr, exprsPaired es = true →
      truthsAlone sc s es = truths sc (s.services.view sc.world sc.subject) es
  | [], _ => by simp only [truthsAlone, truths]
  | e :: es, paired => by
    obtain ⟨first, rest⟩ := (Bool.and_eq_true _ _).mp paired
    simp only [truthsAlone, truths, e.alone_eq_reading sc s first, truthsAlone_eq sc s es rest]

theorem Operand.alone_eq_reading (sc : Scene) (s : EvalState) :
    ∀ a : Operand, a.paired = true →
      a.alone sc s = a.reading sc (s.services.view sc.world sc.subject)
  | .expr e, paired => by
    simp only [Operand.alone, Operand.reading, e.alone_eq_reading sc s paired]
  | .number n, _ => by simp only [Operand.alone, (Operand.amount_reads sc (.number n)).result]
  | .keyword k, _ => by simp only [Operand.alone, (Operand.amount_reads sc (.keyword k)).result]
  | .bare w, _ => by simp only [Operand.alone, (Operand.amount_reads sc (.bare w)).result]
  | .text t, _ => by simp only [Operand.alone, (Operand.amount_reads sc (.text t)).result]

theorem amountsAlone_eq (sc : Scene) (s : EvalState) :
    ∀ args : List Operand, operandsPaired args = true →
      amountsAlone sc s args = amounts sc (s.services.view sc.world sc.subject) args
  | [], _ => by simp only [amountsAlone, amounts]
  | a :: args, paired => by
    obtain ⟨first, rest⟩ := (Bool.and_eq_true _ _).mp paired
    simp only [amountsAlone, amounts, a.alone_eq_reading sc s first, amountsAlone_eq sc s args rest]

end

mutual

/-- An expression with the operands of its combinations in other orders, at any depth. -/
inductive Expr.Shuffled : Expr → Expr → Prop
  | literal (v : Value) : Expr.Shuffled (.literal v) (.literal v)
  | not {e e' : Expr} (inner : Expr.Shuffled e e') : Expr.Shuffled (.not e) (.not e')
  | or {es mid es' : List Expr} (each : ExprsShuffled es mid) (perm : mid.Perm es') :
    Expr.Shuffled (.or es) (.or es')
  | and {es mid es' : List Expr} (each : ExprsShuffled es mid) (perm : mid.Perm es') :
    Expr.Shuffled (.and es) (.and es')
  | xor {es mid es' : List Expr} (each : ExprsShuffled es mid) (perm : mid.Perm es') :
    Expr.Shuffled (.xor es) (.xor es')
  | call (f : Builtin) (name : String) {args args' : List Operand} (p : Option Pattern)
    (each : OperandsShuffled args args') :
    Expr.Shuffled (.call f name args p) (.call f name args' p)

/-- Several expressions, each with its operands in other orders. -/
inductive ExprsShuffled : List Expr → List Expr → Prop
  | nil : ExprsShuffled [] []
  | cons {e e' : Expr} {es es' : List Expr} (head : Expr.Shuffled e e')
    (tail : ExprsShuffled es es') : ExprsShuffled (e :: es) (e' :: es')

/-- An argument, with operands in other orders if it is an expression. -/
inductive Operand.Shuffled : Operand → Operand → Prop
  | same (a : Operand) : Operand.Shuffled a a
  | expr {e e' : Expr} (inner : Expr.Shuffled e e') : Operand.Shuffled (.expr e) (.expr e')

/-- Several arguments, each with operands in other orders. The arguments themselves stay in place. -/
inductive OperandsShuffled : List Operand → List Operand → Prop
  | nil : OperandsShuffled [] []
  | cons {a a' : Operand} {args args' : List Operand} (head : Operand.Shuffled a a')
    (tail : OperandsShuffled args args') : OperandsShuffled (a :: args) (a' :: args')

end

mutual

theorem Expr.Shuffled.refl : ∀ e : Expr, e.Shuffled e
  | .literal v => .literal v
  | .not e => .not (.refl e)
  | .or es => .or (.refl es) (.refl es)
  | .and es => .and (.refl es) (.refl es)
  | .xor es => .xor (.refl es) (.refl es)
  | .call f name args p => .call f name p (.refl args)

theorem ExprsShuffled.refl : ∀ es : List Expr, ExprsShuffled es es
  | [] => .nil
  | e :: es => .cons (.refl e) (.refl es)

theorem OperandsShuffled.refl : ∀ args : List Operand, OperandsShuffled args args
  | [] => .nil
  | a :: args => .cons (.same a) (.refl args)

end

/-- Where an argument is read as a text, the order of operands in it is not seen. -/
theorem Operand.Shuffled.eq_or_expr {a a' : Operand} (h : a.Shuffled a') :
    a' = a ∨ ∃ e e', a = .expr e ∧ a' = .expr e' := by
  cases h with
  | same => exact .inl rfl
  | expr => exact .inr ⟨_, _, rfl, rfl⟩

theorem Operand.Shuffled.texts_eq {a a' : Operand} (h : a.Shuffled a') (sc : Scene) (v : View) :
    sc.text a' = sc.text a ∧ v.texts sc a' = v.texts sc a ∧
      ∀ p, v.isMatch sc p a' = v.isMatch sc p a := by
  obtain rfl | ⟨e, e', rfl, rfl⟩ := h.eq_or_expr
  · exact ⟨rfl, rfl, fun _ => rfl⟩
  · exact ⟨rfl, rfl, fun _ => rfl⟩

theorem OperandsShuffled.textAt_eq {args args' : List Operand} (h : OperandsShuffled args args') :
    textAt args' 0 = textAt args 0 := by
  cases h with
  | nil => rfl
  | cons head =>
    obtain rfl | ⟨e, e', rfl, rfl⟩ := head.eq_or_expr
    · rfl
    · rfl

/-- The value of a call without numeric arguments does not depend on the order of operands in them. -/
theorem OperandsShuffled.plainCall_eq {args args' : List Operand} (h : OperandsShuffled args args')
    (sc : Scene) (v : View) (f : Builtin) (p : Option Pattern) :
    v.plainCall sc f args' p = v.plainCall sc f args p := by
  have literal := h.textAt_eq
  cases h with
  | nil => rfl
  | cons head tail =>
    obtain ⟨text, texts, isMatch⟩ := head.texts_eq sc v
    cases tail with
    | nil => cases f <;> simp only [View.plainCall, literal, isMatch]
    | cons next =>
      have needle := (next.texts_eq sc v).1
      cases f <;> simp only [View.plainCall, literal, texts, needle, isMatch]

theorem truths_eq_map (sc : Scene) (v : View) (es : List Expr) :
    truths sc v es = es.map fun e => (e.reading sc v).truth := by
  induction es with
  | nil => simp only [truths, List.map_nil]
  | cons e es ih => simp only [truths, ih, List.map_cons]

theorem truths_perm (sc : Scene) (v : View) {es es' : List Expr} (perm : es.Perm es') :
    (truths sc v es).Perm (truths sc v es') := by
  simp only [truths_eq_map]
  exact perm.map _

theorem ExprsShuffled.length_eq : ∀ {es es' : List Expr}, ExprsShuffled es es' →
    es'.length = es.length
  | _, _, .nil => rfl
  | _, _, .cons _ tail => congrArg (· + 1) tail.length_eq

mutual

/-- Operands may change places, and the value stays. -/
theorem Expr.Shuffled.reading_eq (sc : Scene) (v : View) : ∀ {e e' : Expr}, e.Shuffled e' →
    e'.reading sc v = e.reading sc v
  | _, _, .literal _ => rfl
  | _, _, .not inner => by simp only [Expr.reading, inner.reading_eq sc v]
  | _, _, .or each perm => by
    simp only [Expr.reading, ← each.truths_eq sc v, (truths_perm sc v perm).any_eq]
  | _, _, .and each perm => by
    simp only [Expr.reading, ← each.truths_eq sc v, (truths_perm sc v perm).all_eq]
  | _, _, .xor each perm => by
    simp only [Expr.reading, ← each.truths_eq sc v, ← parity_eq_foldr,
      parity_perm (truths_perm sc v perm), ← perm.length_eq, each.length_eq]
  | _, _, .call f _ p each => by
    simp only [Expr.reading, View.call, each.amounts_eq sc v, each.plainCall_eq sc v]

theorem ExprsShuffled.truths_eq (sc : Scene) (v : View) : ∀ {es es' : List Expr},
    ExprsShuffled es es' → truths sc v es' = truths sc v es
  | _, _, .nil => rfl
  | _, _, .cons head tail => by
    simp only [truths, head.reading_eq sc v, tail.truths_eq sc v]

theorem Operand.Shuffled.reading_eq (sc : Scene) (v : View) : ∀ {a a' : Operand}, a.Shuffled a' →
    a'.reading sc v = a.reading sc v
  | _, _, .same _ => rfl
  | _, _, .expr inner => by simp only [Operand.reading, inner.reading_eq sc v]

theorem OperandsShuffled.amounts_eq (sc : Scene) (v : View) : ∀ {args args' : List Operand},
    OperandsShuffled args args' → amounts sc v args' = amounts sc v args
  | _, _, .nil => rfl
  | _, _, .cons head tail => by
    simp only [amounts, head.reading_eq sc v, tail.amounts_eq sc v]

end

/-- Operands may change places, and the expression holds or not as before. -/
theorem Expr.Shuffled.holds_eq {e e' : Expr} (h : e.Shuffled e') (sc : Scene) (s : EvalState) :
    ((e'.holds sc).run s).1 = ((e.holds sc).run s).1 := by
  rw [(e'.holds_reads sc).result, (e.holds_reads sc).result, h.reading_eq]

end TagRules
