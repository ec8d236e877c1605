import TagRules.Proofs.Eval.Reading

/-!
# Evaluation with a record of its calls

`Expr.recorded` evaluates an expression as `Expr.value` does and keeps a record, besides, of each call
whose arguments need no numbers, with its value and the states before and after it. The record does not
interfere: without it, it is the evaluation that runs (`Recorded.Follows.erases`). All else that
evaluation does is to report, so what the calls of an expression keep true, its evaluation keeps true
(`Expr.holds_recorded`).
-/

namespace TagRules

/-- A call that was made. -/
structure CallRecord where
  scene : Scene
  function : Builtin
  args : List Operand
  before : EvalState
  value : Value
  after : EvalState

/-- A step of evaluation that keeps a record of calls, newest first. -/
abbrev Recorded := StateT (List CallRecord) Eval

/-- The value of a call whose arguments need no numbers, with a record of it. -/
def Recorded.plainCall (sc : Scene) (f : Builtin) (args : List Operand) (p : Option Pattern) :
    Recorded Value := do
  let before ← StateT.lift get
  let value ← StateT.lift (Eval.plainCall sc f args p)
  let after ← StateT.lift get
  modify fun calls => ⟨sc, f, args, before, value, after⟩ :: calls
  return value

open Eval (report condition)

mutual

/-- The value of an expression, with a record of its calls. -/
def Expr.recorded (sc : Scene) : Expr → Recorded Value
  | .literal v => pure v
  | .not e => do
    let v ← e.recorded sc
    let b ← StateT.lift (condition sc e v)
    return .bool !b
  | .or es => do
    let b ← anyRecorded sc es
    return .bool b
  | .and es => do
    let b ← allRecorded sc es
    return .bool b
  | .xor es => do
    if es.length < 2 then
      StateT.lift (report sc "Two or more arguments required for ^")
      return .bool false
    else
      let b ← oddRecorded sc es
      return .bool b
  | .call f _ args p =>
    match f.signature with
    | .numbers =>
      match args with
      | a :: b :: _ => do
        let x ← a.recorded sc
        let y ← b.recorded sc
        return .bool (Eval.compare f x y)
      | _ => pure (.bool false)
    | .quantity => do
      let unit := Double.ofNat (f.secondsPerUnit?.getD 0)
      match args with
      | a :: _ =>
        let x ← a.recorded sc
        return .number (x.mul unit).trunc
      | [] => return .number (Double.zero.mul unit).trunc
    | _ => Recorded.plainCall sc f args p

/-- One of the conditions holds, with a record of the calls. -/
def anyRecorded (sc : Scene) : List Expr → Recorded Bool
  | [] => pure false
  | e :: es => do
    let v ← e.recorded sc
    if ← StateT.lift (condition sc e v) then return true else anyRecorded sc es

/-- All conditions hold, with a record of the calls. -/
def allRecorded (sc : Scene) : List Expr → Recorded Bool
  | [] => pure true
  | e :: es => do
    let v ← e.recorded sc
    if ← StateT.lift (condition sc e v) then allRecorded sc es else return false

/-- An odd number of the conditions hold, with a record of the calls. -/
def oddRecorded (sc : Scene) : List Expr → Recorded Bool
  | [] => pure false
  | e :: es => do
    let v ← e.recorded sc
    let b ← StateT.lift (condition sc e v)
    let rest ← oddRecorded sc es
    return b != rest

/-- The number that an argument stands for, with a record of the calls. -/
def Operand.recorded (sc : Scene) : Operand → Recorded Double
  | .expr e => do
    match ← e.recorded sc with
    | .number n => return n
    | .bool _ =>
      StateT.lift (report sc ("Invalid constraint numeric: " ++ e.canonical))
      return .zero
  | a => StateT.lift (a.amount sc)

end

/-- The truth of an expression, with a record of its calls. -/
def Expr.holdsRecorded (sc : Scene) (e : Expr) : Recorded Bool := do
  let v ← e.recorded sc
  StateT.lift (condition sc e v)

/-- A step does no more than report: of the services, it changes the tag store alone. -/
def Eval.OnlyReports (m : Eval α) : Prop :=
  ∀ s, ∃ store diagnostics, (m.run s).2 = ⟨{ s.services with store }, diagnostics⟩

namespace Eval

theorem OnlyReports.pure (a : α) : OnlyReports (pure a : Eval α) :=
  fun s => ⟨s.services.store, s.diagnostics, rfl⟩

theorem report_onlyReports (sc : Scene) (message : String) (a : α) :
    OnlyReports (do report sc message; return a) :=
  fun _ => ⟨_, _, rfl⟩

theorem condition_onlyReports (sc : Scene) (e : Expr) (v : Value) : OnlyReports (condition sc e v) := by
  cases v with
  | bool b => exact .pure b
  | number n => exact report_onlyReports sc _ false

/-- An argument that is no expression makes no call. -/
theorem amount_onlyReports (sc : Scene) {a : Operand} (leaf : ∀ e, a ≠ .expr e) :
    OnlyReports (a.amount sc) := by
  cases a with
  | number n =>
    simp only [Operand.amount]
    exact .pure n
  | expr e => exact absurd rfl (leaf e)
  | keyword k =>
    simp only [Operand.amount]
    split
    · exact report_onlyReports sc _ _
    · exact fun s => ⟨s.services.store, s.diagnostics, rfl⟩
  | bare word =>
    simp only [Operand.amount]
    exact report_onlyReports sc _ _
  | text s =>
    simp only [Operand.amount]
    exact report_onlyReports sc _ _

end Eval

namespace Recorded

/-- A relation of the record and the state that reports keep, and some calls. -/
structure Invariant (sc : Scene) (among : Builtin × List Operand → Prop)
    (I : List CallRecord → EvalState → Prop) : Prop where
  report {calls : List CallRecord} {s : EvalState} (store : TagStore) (diagnostics : List String) :
    I calls s → I calls ⟨{ s.services with store }, diagnostics⟩
  call {f : Builtin} {args : List Operand} (made : among (f, args)) (p : Option Pattern)
    {calls : List CallRecord} {s : EvalState} : I calls s →
      I (⟨sc, f, args, s, ((Eval.plainCall sc f args p).run s).1,
          ((Eval.plainCall sc f args p).run s).2⟩ :: calls)
        ((Eval.plainCall sc f args p).run s).2

/-- A step that keeps a record, of whatever type, does what the step without does, and keeps a relation
of the record and the state. -/
structure Follows {ρ : Type} (I : ρ → EvalState → Prop) (m : Eval α) (n : StateT ρ Eval α) : Prop where
  erases : ∀ record s, (((n.run record).run s).1.1, ((n.run record).run s).2) = m.run s
  keeps : ∀ record s, I record s → I ((n.run record).run s).1.2 ((n.run record).run s).2

namespace Follows

section Steps

variable {ρ : Type} {I : ρ → EvalState → Prop}

theorem pure (a : α) : Follows I (pure a) (pure a) :=
  ⟨fun _ _ => rfl, fun _ _ holds => holds⟩

theorem bind {m : Eval α} {n : StateT ρ Eval α} {k : α → Eval β} {l : α → StateT ρ Eval β}
    (first : Follows I m n) (second : ∀ a, Follows I (k a) (l a)) : Follows I (m >>= k) (n >>= l) where
  erases record s := by
    have before := first.erases record s
    have after := (second ((n.run record).run s).1.1).erases ((n.run record).run s).1.2
      ((n.run record).run s).2
    rw [StateT.run_bind, StateT.run_bind, StateT.run_bind, ← before]
    exact after
  keeps record s holds := (second _).keeps _ _ (first.keeps record s holds)

theorem ite {c : Prop} [Decidable c] {m m' : Eval α} {n n' : StateT ρ Eval α} (yes : Follows I m n)
    (no : Follows I m' n') : Follows I (if c then m else m') (if c then n else n') := by
  by_cases h : c
  · simpa only [if_pos h] using yes
  · simpa only [if_neg h] using no

end Steps

variable {I : List CallRecord → EvalState → Prop} {sc : Scene} {among : Builtin × List Operand → Prop}

theorem lift (inv : Invariant sc among I) {m : Eval α} (reports : Eval.OnlyReports m) :
    Follows I m (StateT.lift m) := by
  refine ⟨fun _ _ => rfl, fun calls s holds => ?_⟩
  obtain ⟨store, diagnostics, after⟩ := reports s
  change I calls (m.run s).2
  rw [after]
  exact inv.report store diagnostics holds

theorem report (inv : Invariant sc among I) (message : String) (a : α) :
    Follows I (do Eval.report sc message; return a)
      (do StateT.lift (Eval.report sc message); return a) := by
  have reports : Eval.OnlyReports (Eval.report sc message) := fun _ => ⟨_, _, rfl⟩
  exact (lift inv reports).bind fun _ => .pure a

theorem condition (inv : Invariant sc among I) (e : Expr) (v : Value) :
    Follows I (Eval.condition sc e v) (StateT.lift (Eval.condition sc e v)) :=
  lift inv (Eval.condition_onlyReports sc e v)

end Follows

end Recorded

open Recorded

variable {sc : Scene} {I : List CallRecord → EvalState → Prop}
  {among : Builtin × List Operand → Prop}

/-- A call follows if its arguments do. -/
theorem Expr.call_recorded (inv : Invariant sc among I) {f : Builtin} {args : List Operand}
    (made : among (f, args)) (name : String) (p : Option Pattern)
    (amounts : ∀ a ∈ args, Follows I (a.amount sc) (a.recorded sc)) :
    Follows I (Expr.value sc (.call f name args p)) (Expr.recorded sc (.call f name args p)) := by
  unfold Expr.value Expr.recorded
  generalize f.signature = kind
  cases kind with
  | numbers =>
    cases args with
    | nil => exact .pure _
    | cons a rest =>
      cases rest with
      | nil => exact .pure _
      | cons b rest =>
        exact (amounts a (by simp)).bind fun x => (amounts b (by simp)).bind fun y => .pure _
  | quantity =>
    cases args with
    | nil => exact .pure _
    | cons a rest => exact (amounts a (by simp)).bind fun x => .pure _
  | _ => exact ⟨fun _ _ => rfl, fun _ _ => inv.call made p⟩

mutual

/-- Evaluation with a record is evaluation. -/
theorem Expr.value_recorded (inv : Invariant sc among I) :
    ∀ e : Expr, (∀ call ∈ e.calls, among call) → Follows I (e.value sc) (e.recorded sc)
  | .literal v, _ => by
    simp only [Expr.value, Expr.recorded]
    exact .pure v
  | .not e, made => by
    simp only [Expr.value, Expr.recorded]
    exact (e.value_recorded inv made).bind fun v => (Follows.condition inv e v).bind fun b => .pure _
  | .or es, made => by
    simp only [Expr.value, Expr.recorded]
    exact (anyHolds_recorded inv es made).bind fun b => .pure _
  | .and es, made => by
    simp only [Expr.value, Expr.recorded]
    exact (allHold_recorded inv es made).bind fun b => .pure _
  | .xor es, made => by
    simp only [Expr.value, Expr.recorded]
    exact .ite (.report inv _ _) ((oddHold_recorded inv es made).bind fun b => .pure _)
  | .call f name args p, made =>
    have ⟨own, inner⟩ := List.forall_mem_cons.1 made
    Expr.call_recorded inv own name p (amounts_recorded inv args inner)

theorem anyHolds_recorded (inv : Invariant sc among I) :
    ∀ es : List Expr, (∀ call ∈ exprsCalls es, among call) →
      Follows I (anyHolds sc es) (anyRecorded sc es)
  | [], _ => by
    simp only [anyHolds, anyRecorded]
    exact .pure false
  | e :: es, made => by
    obtain ⟨first, rest⟩ := List.forall_mem_append.1 made
    simp only [anyHolds, anyRecorded]
    exact (e.value_recorded inv first).bind fun v => (Follows.condition inv e v).bind fun b =>
      .ite (.pure true) (anyHolds_recorded inv es rest)

theorem allHold_recorded (inv : Invariant sc among I) :
    ∀ es : List Expr, (∀ call ∈ exprsCalls es, among call) →
      Follows I (allHold sc es) (allRecorded sc es)
  | [], _ => by
    simp only [allHold, allRecorded]
    exact .pure true
  | e :: es, made => by
    obtain ⟨first, rest⟩ := List.forall_mem_append.1 made
    simp only [allHold, allRecorded]
    exact (e.value_recorded inv first).bind fun v => (Follows.condition inv e v).bind fun b =>
      .ite (allHold_recorded inv es rest) (.pure false)

theorem oddHold_recorded (inv : Invariant sc among I) :
    ∀ es : List Expr, (∀ call ∈ exprsCalls es, among call) →
      Follows I (oddHold sc es) (oddRecorded sc es)
  | [], _ => by
    simp only [oddHold, oddRecorded]
    exact .pure false
  | e :: es, made => by
    obtain ⟨first, rest⟩ := List.forall_mem_append.1 made
    simp only [oddHold, oddRecorded]
    exact (e.value_recorded inv first).bind fun v => (Follows.condition inv e v).bind fun b =>
      (oddHold_recorded inv es rest).bind fun others => .pure _

theorem Operand.amount_recorded (inv : Invariant sc among I) :
    ∀ a : Operand, (∀ call ∈ a.calls, among call) → Follows I (a.amount sc) (a.recorded sc)
  | .expr e, made => by
    simp only [Operand.amount, Operand.recorded]
    refine (e.value_recorded inv made).bind fun v => ?_
    cases v with
    | number n => exact .pure n
    | bool b => exact .report inv _ _
  | .number _, _ | .keyword _, _ | .bare _, _ | .text _, _ => by
    simp only [Operand.recorded]
    exact .lift inv (Eval.amount_onlyReports sc fun e same => by cases same)

theorem amounts_recorded (inv : Invariant sc among I) :
    ∀ args : List Operand, (∀ call ∈ operandsCalls args, among call) →
      ∀ a ∈ args, Follows I (a.amount sc) (a.recorded sc)
  | [], _ => fun _ mem => nomatch mem
  | a :: args, made => by
    obtain ⟨first, rest⟩ := List.forall_mem_append.1 made
    exact List.forall_mem_cons.2 ⟨a.amount_recorded inv first, amounts_recorded inv args rest⟩

end

/-- The truth with a record is the truth. -/
theorem Expr.holds_recorded (inv : Invariant sc among I) {e : Expr}
    (made : ∀ call ∈ e.calls, among call) : Follows I (e.holds sc) (e.holdsRecorded sc) :=
  (e.value_recorded inv made).bind fun v => .condition inv e v

end TagRules
