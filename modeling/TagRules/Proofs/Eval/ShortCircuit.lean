import Mathlib.Tactic.Choose
import TagRules.Proofs.Eval.Independence
import TagRules.Proofs.Expr.Invariant

/-!
# Stopping early

A disjunction or a conjunction stops at the operand that decides it. `Expr.full` evaluates all
operands from left to right instead. Both have the value of the operands on their own, and the one
that stops reports some of what the other one reports, in the same order (`Eval.Covered`): each
step is covered by the same step, and a step that is left out by any other one
(`Expr.short_circuit`).
-/

namespace TagRules

open Eval

mutual

/-- The value of an expression, with all operands evaluated from left to right. -/
def Expr.full (sc : Scene) : Expr → Eval Value
  | .literal v => pure v
  | .not e => do
    let v ← e.full sc
    let b ← condition sc e v
    return .bool !b
  | .or es => do
    let bs ← fullTruths sc es
    return .bool (bs.any id)
  | .and es => do
    let bs ← fullTruths sc es
    return .bool (bs.all id)
  | .xor es => do
    let bs ← fullTruths sc es
    return .bool (parity bs)
  | .call f _ args p =>
    match f.signature with
    | .numbers =>
      match args with
      | a :: b :: _ => do
        let x ← a.full sc
        let y ← b.full sc
        return .bool (compare f x y)
      | _ => pure (.bool false)
    | .quantity => do
      let unit := Double.ofNat (f.secondsPerUnit?.getD 0)
      match args with
      | a :: _ =>
        let x ← a.full sc
        return .number (x.mul unit).trunc
      | [] => return .number (Double.zero.mul unit).trunc
    | _ => plainCall sc f args p

/-- The truth of each of several conditions, from left to right. -/
def fullTruths (sc : Scene) : List Expr → Eval (List Bool)
  | [] => pure []
  | e :: es => do
    let v ← e.full sc
    let b ← condition sc e v
    let rest ← fullTruths sc es
    return b :: rest

/-- The number that an argument stands for, with all operands in it evaluated. -/
def Operand.full (sc : Scene) : Operand → Eval Double
  | .expr e => do
    match ← e.full sc with
    | .number n => return n
    | .bool _ =>
      report sc ("Invalid constraint numeric: " ++ e.canonical)
      return .zero
  | a => a.amount sc

end

/-- The truth of an expression, with all operands evaluated from left to right. -/
def Expr.fullHolds (sc : Scene) (e : Expr) : Eval Bool := do
  let v ← e.full sc
  condition sc e v

namespace Eval

variable {sc : Scene} {α β : Type}

/-- What two states that look the same are told by two steps: the first step reports some of what
the second one reports, in the same order. Reports are kept newest first. -/
def Fewer (s s' t t' : EvalState) : Prop :=
  ∃ some all, s'.diagnostics = some ++ s.diagnostics ∧ t'.diagnostics = all ++ t.diagnostics ∧
    some.Sublist all

/-- Two steps that read the same, of which the first one reports no more than the second one does
from a state that looks the same. -/
structure Covered (sc : Scene) (m n : Eval α) : Prop where
  reads : ∃ f, Reads sc m f ∧ Reads sc n f
  fewer : ∀ s t, s.services.view sc.world sc.subject = t.services.view sc.world sc.subject →
    Fewer s (m.run s).2 t (n.run t).2

namespace Covered

variable {m n : Eval α}

theorem pure (a : α) : Covered sc (pure a) (pure a) where
  reads := ⟨_, .pure a, .pure a⟩
  fewer _ _ _ := ⟨[], [], rfl, rfl, .refl _⟩

/-- A report and a value in place of what is missing. -/
theorem report (message : String) (a : α) :
    Covered sc (do report sc message; return a) (do report sc message; return a) where
  reads := ⟨_, report_then sc message a, report_then sc message a⟩
  fewer _ _ _ := ⟨[message], [message], rfl, rfl, .refl _⟩

theorem bind {k l : α → Eval β} (first : Covered sc m n) (second : ∀ a, Covered sc (k a) (l a)) :
    Covered sc (m >>= k) (n >>= l) := by
  obtain ⟨f, left, right⟩ := first.reads
  choose g left' right' using fun a => (second a).reads
  refine ⟨⟨_, left.bind left', right.bind right'⟩, ?_⟩
  intro s t same
  have value : (m.run s).1 = (n.run t).1 := by rw [left.result, right.result, same]
  have looks := (left.keeps s).view.trans (same.trans (right.keeps t).view.symm)
  obtain ⟨some, all, old, old', sublist⟩ := first.fewer s t same
  obtain ⟨some', all', new, new', sublist'⟩ :=
    (second (m.run s).1).fewer (m.run s).2 (n.run t).2 looks
  refine ⟨some' ++ some, all' ++ all, ?_, ?_, sublist'.append sublist⟩
  · rw [List.append_assoc, ← old]
    exact new
  · rw [List.append_assoc, ← old', ← new', value]
    rfl

/-- What is left out is covered by whatever is done. -/
theorem skip {l : Eval β} {f : β → α} (h : Covered sc m (l >>= fun b => Pure.pure (f b)))
    (a : α) : Covered sc (Pure.pure a) (l >>= fun _ => Pure.pure a) := by
  obtain ⟨g, -, right⟩ := h.reads
  refine ⟨⟨_, .pure a, ⟨fun _ => rfl, fun s => right.keeps s⟩⟩, ?_⟩
  intro s t _
  obtain ⟨-, all, -, told, -⟩ := h.fewer t t rfl
  exact ⟨[], all, rfl, told, List.nil_sublist all⟩

/-- The same is made of both results. -/
theorem map {l : Eval β} {f : β → α} (h : Covered sc m (l >>= fun b => Pure.pure (f b)))
    {γ : Type} (g : α → γ) :
    Covered sc (m >>= fun a => Pure.pure (g a)) (l >>= fun b => Pure.pure (g (f b))) := by
  have both := h.bind fun a => Covered.pure (g a)
  simpa only [bind_assoc, pure_bind] using both

/-- A step that reports the same from states that look the same. -/
theorem of_run {f : View → α} (reads : Reads sc m f)
    (h : ∀ s t, s.services.view sc.world sc.subject = t.services.view sc.world sc.subject →
      Fewer s (m.run s).2 t (m.run t).2) : Covered sc m m :=
  ⟨⟨f, reads, reads⟩, h⟩

end Covered

theorem condition_covered (sc : Scene) (e : Expr) (v : Value) :
    Covered sc (condition sc e v) (condition sc e v) := by
  cases v with
  | bool b => exact .pure b
  | number n => exact .report _ false

theorem string_covered (sc : Scene) (a : Operand) : Covered sc (string sc a) (string sc a) := by
  unfold string
  split
  · exact .pure _
  · exact .pure _
  · exact .report _ ""

theorem strings_covered (sc : Scene) (a : Operand) : Covered sc (strings sc a) (strings sc a) := by
  by_cases files : a = .keyword .fileNames
  · subst files
    exact .of_run (strings_reads sc _) fun s t _ => ⟨[], [], rfl, rfl, .refl _⟩
  · unfold strings
    split
    · contradiction
    · exact (string_covered sc a).bind fun text => .pure [text]

theorem matching_covered (sc : Scene) (p : Pattern) (a : Operand) :
    Covered sc (matching sc p a) (matching sc p a) := by
  by_cases files : a = .keyword .fileNames
  · subst files
    have silent (s : EvalState) :
        ((matching sc p (.keyword .fileNames)).run s).2.diagnostics = s.diagnostics := by
      rcases matching_fileNames_run sc p s with run | run
      · rw [run]
      · rw [run]
    exact .of_run (matching_reads sc p _) fun s t _ => ⟨[], [], silent s, silent t, .refl _⟩
  · unfold matching
    split
    · contradiction
    · exact (string_covered sc a).bind fun text => .pure (p.search text)

theorem script_covered (sc : Scene) (source : String) :
    Covered sc (script sc source) (script sc source) := by
  unfold script
  split
  · exact .report _ false
  · refine .bind (.of_run (scriptCall_reads sc _) fun s t _ => ⟨[], [], rfl, rfl, .refl _⟩) ?_
    intro _
    split
    · exact .pure _
    · exact .pure false
    · exact .report _ false

theorem setting_covered (sc : Scene) (key : String) :
    Covered sc (setting sc key) (setting sc key) := by
  refine .of_run (setting_reads sc key) fun s t same => ?_
  have answer : (s.services.settings.get sc.world.config sc.world.ticks key).1 =
      (t.services.settings.get sc.world.config sc.world.ticks key).1 :=
    congrFun (congrArg View.setting same) key
  rw [setting_run, setting_run, answer]
  split
  · exact ⟨[], [], rfl, rfl, .refl _⟩
  · next e _ => exact ⟨[e.message], [e.message], rfl, rfl, .refl _⟩

theorem countTag_covered (sc : Scene) (name : String) :
    Covered sc (countTag sc name) (countTag sc name) := by
  refine .of_run (countTag_reads sc name) fun s t same => ?_
  have rolls : s.services.store.rolls = t.services.store.rolls := congrArg View.rolls same
  have found : s.services.store.tagsByName name = t.services.store.tagsByName name := by
    simp only [TagStore.tagsByName, TagStore.allTags, rolls]
  rw [countTag_run, countTag_run, found]
  split
  · exact ⟨[], [], rfl, rfl, .refl _⟩
  · exact ⟨[_], [_], rfl, rfl, .refl _⟩

theorem keyword_covered (sc : Scene) (k : Keyword) :
    Covered sc (Operand.amount sc (.keyword k)) (Operand.amount sc (.keyword k)) := by
  refine .of_run (Operand.amount_reads sc (.keyword k)) fun s t _ => ?_
  unfold Operand.amount
  split
  · exact ⟨[_], [_], rfl, rfl, .refl _⟩
  · exact ⟨[], [], rfl, rfl, .refl _⟩

theorem plainCall_covered (sc : Scene) (f : Builtin) (args : List Operand) (p : Option Pattern) :
    Covered sc (plainCall sc f args p) (plainCall sc f args p) := by
  unfold plainCall
  split
  · exact (countTag_covered sc _).bind fun n => .pure (Value.number n)
  · exact (setting_covered sc _).bind fun n => .pure (Value.number n)
  · exact (script_covered sc _).bind fun b => .pure (Value.bool b)
  · exact (strings_covered sc _).bind fun texts => (string_covered sc _).bind fun part => .pure _
  · split
    · exact .pure _
    · exact (matching_covered sc _ _).bind fun b => .pure (Value.bool b)
  · exact .pure _

end Eval

/-- A call is covered if its numeric arguments are. -/
theorem Expr.call_covered (sc : Scene) (f : Builtin) (name : String) (args : List Operand)
    (p : Option Pattern) (numbers : ∀ a ∈ args, Covered sc (a.amount sc) (a.full sc)) :
    Covered sc (Expr.value sc (.call f name args p)) (Expr.full sc (.call f name args p)) := by
  by_cases numeric : f.signature = .numbers
  · unfold Expr.value Expr.full
    simp only [numeric]
    cases args with
    | nil => exact .pure _
    | cons a rest =>
      cases rest with
      | nil => exact .pure _
      | cons b rest =>
        exact (numbers a (by simp)).bind fun x => (numbers b (by simp)).bind fun y =>
          .pure (Value.bool (compare f x y))
  · by_cases quantity : f.signature = .quantity
    · unfold Expr.value Expr.full
      simp only [quantity]
      cases args with
      | nil => exact .pure _
      | cons a rest => exact (numbers a (by simp)).bind fun x => .pure (Value.number _)
    · rw [Expr.value_plainCall numeric quantity]
      unfold Expr.full
      split
      · contradiction
      · contradiction
      · exact plainCall_covered sc f args p

mutual

/-- Evaluation that stops early is covered by evaluation of all operands. -/
theorem Expr.value_covered (sc : Scene) : ∀ e : Expr, e.paired = true →
    Covered sc (e.value sc) (e.full sc)
  | .literal v, _ => by
    simp only [Expr.value, Expr.full]
    exact .pure v
  | .not e, paired => by
    simp only [Expr.value, Expr.full]
    exact (e.value_covered sc paired).bind fun v => (condition_covered sc e v).bind fun b =>
      .pure (Value.bool !b)
  | .or es, paired => by
    simp only [Expr.value, Expr.full]
    exact (anyHolds_covered sc es paired).map Value.bool
  | .and es, paired => by
    simp only [Expr.value, Expr.full]
    exact (allHold_covered sc es paired).map Value.bool
  | .xor es, paired => by
    obtain ⟨enough, paired⟩ := (Bool.and_eq_true _ _).mp paired
    simp only [Expr.value, Expr.full]
    rw [if_neg (Nat.not_lt_of_le (of_decide_eq_true enough))]
    exact (oddHold_covered sc es paired).map Value.bool
  | .call f name args p, paired => Expr.call_covered sc f name args p (amounts_covered sc args paired)

theorem anyHolds_covered (sc : Scene) : ∀ es : List Expr, exprsPaired es = true →
    Covered sc (anyHolds sc es) (do let bs ← fullTruths sc es; return bs.any id)
  | [], _ => by
    simp only [anyHolds, fullTruths, pure_bind]
    exact .pure false
  | e :: es, paired => by
    obtain ⟨first, rest⟩ := (Bool.and_eq_true _ _).mp paired
    have others := anyHolds_covered sc es rest
    simp only [anyHolds, fullTruths, bind_assoc, pure_bind]
    refine (e.value_covered sc first).bind fun v => (condition_covered sc e v).bind fun b => ?_
    cases b with
    | true => exact others.skip true
    | false => exact others

theorem allHold_covered (sc : Scene) : ∀ es : List Expr, exprsPaired es = true →
    Covered sc (allHold sc es) (do let bs ← fullTruths sc es; return bs.all id)
  | [], _ => by
    simp only [allHold, fullTruths, pure_bind]
    exact .pure true
  | e :: es, paired => by
    obtain ⟨first, rest⟩ := (Bool.and_eq_true _ _).mp paired
    have others := allHold_covered sc es rest
    simp only [allHold, fullTruths, bind_assoc, pure_bind]
    refine (e.value_covered sc first).bind fun v => (condition_covered sc e v).bind fun b => ?_
    cases b with
    | true => exact others
    | false => exact others.skip false

theorem oddHold_covered (sc : Scene) : ∀ es : List Expr, exprsPaired es = true →
    Covered sc (oddHold sc es) (do let bs ← fullTruths sc es; return parity bs)
  | [], _ => by
    simp only [oddHold, fullTruths, pure_bind]
    exact .pure false
  | e :: es, paired => by
    obtain ⟨first, rest⟩ := (Bool.and_eq_true _ _).mp paired
    simp only [oddHold, fullTruths, bind_assoc, pure_bind, parity_cons]
    exact (e.value_covered sc first).bind fun v => (condition_covered sc e v).bind fun b =>
      (oddHold_covered sc es rest).map (b != ·)

theorem Operand.amount_covered (sc : Scene) : ∀ a : Operand, a.paired = true →
    Covered sc (a.amount sc) (a.full sc)
  | .expr e, paired => by
    simp only [Operand.amount, Operand.full]
    refine (e.value_covered sc paired).bind fun v => ?_
    cases v with
    | number n => exact .pure n
    | bool b => exact .report _ Double.zero
  | .number n, _ => by
    simp only [Operand.full, Operand.amount]
    exact .pure n
  | .keyword k, _ => by
    simp only [Operand.full]
    exact keyword_covered sc k
  | .bare word, _ => by
    simp only [Operand.full, Operand.amount]
    exact .report _ Double.zero
  | .text s, _ => by
    simp only [Operand.full, Operand.amount]
    exact .report _ Double.zero

theorem amounts_covered (sc : Scene) : ∀ args : List Operand, operandsPaired args = true →
    ∀ a ∈ args, Covered sc (a.amount sc) (a.full sc)
  | [], _ => fun _ mem => nomatch mem
  | a :: args, paired => by
    obtain ⟨first, rest⟩ := (Bool.and_eq_true _ _).mp paired
    exact List.forall_mem_cons.2 ⟨a.amount_covered sc first, amounts_covered sc args rest⟩

end

theorem Expr.holds_covered (sc : Scene) {e : Expr} (paired : e.paired = true) :
    Covered sc (e.holds sc) (e.fullHolds sc) :=
  (e.value_covered sc paired).bind fun v => condition_covered sc e v

/-- Evaluation of all operands has the same outcome. -/
theorem Expr.fullHolds_eq (sc : Scene) {e : Expr} (paired : e.paired = true) (s : EvalState) :
    ((e.fullHolds sc).run s).1 = ((e.holds sc).run s).1 := by
  obtain ⟨f, early, full⟩ := (e.holds_covered sc paired).reads
  rw [early.result, full.result]

/-- That evaluation stops early is not seen in its outcome: an expression holds if its operands,
each evaluated from the same state, combine to a truth, and then it also holds with its operands in
other orders. What is reported is part of what an evaluation of all operands reports, in the same
order. -/
theorem Expr.short_circuit (sc : Scene) (s : EvalState) (e : Expr) (paired : e.paired = true) :
    ((e.holds sc).run s).1 = (e.alone sc s).truth ∧
      (∀ e' : Expr, e.Shuffled e' → ((e'.holds sc).run s).1 = ((e.holds sc).run s).1) ∧
      ∃ some all, ((e.holds sc).run s).2.diagnostics = some ++ s.diagnostics ∧
        ((e.fullHolds sc).run s).2.diagnostics = all ++ s.diagnostics ∧ some.Sublist all := by
  refine ⟨?_, fun e' shuffled => shuffled.holds_eq sc s, (e.holds_covered sc paired).fewer s s rfl⟩
  rw [(e.holds_reads sc).result, e.alone_eq_reading sc s paired]

namespace Compile

theorem operandsPaired_eq_true {args : List Operand} :
    operandsPaired args = true ↔ ∀ a ∈ args, a.paired = true := by
  induction args with
  | nil => simp [operandsPaired]
  | cons a args ih => simp [operandsPaired, ih]

theorem exprsPaired_eq_true {es : List Expr} :
    exprsPaired es = true ↔ ∀ e ∈ es, e.paired = true := by
  induction es with
  | nil => simp [exprsPaired]
  | cons e es ih => simp [exprsPaired, ih]

/-- An exclusive or is compiled from two parts or more. -/
def pairing (tags : Option TagStore) : Invariant tags where
  onExpr _ e := e.paired = true
  onOperand _ a := a.paired = true
  grow_expr _ h := h
  grow_operand _ h := h
  of_literal := rfl
  of_not h _ := h
  of_combination {d separator combine es} mem enough each := by
    have all := exprsPaired_eq_true.2 fun e inside => (each e inside).1
    cases Combination.of_mem mem with
    | or => exact all
    | and => exact all
    | xor => exact (Bool.and_eq_true _ _).mpr ⟨decide_eq_true enough, all⟩
  of_text := rfl
  of_word _ stands := by cases stands <;> rfl
  of_expr h := h
  of_call each _ _ _ settled := by
    have all := operandsPaired_eq_true.2 each
    cases settled with
    | hasNet => rfl
    | getConfig => rfl
    | hasTag => exact all
    | matching => exact all
    | unmatched => exact all
    | plain => exact all

/-- In whatever is compiled, every exclusive or has at least two operands. -/
theorem paired_of_compile {tags : Option TagStore} {text : String} {c : Compiled}
    (compiled : compile tags text = .ok c) : c.expr.paired = true := by
  obtain ⟨d, -, paired, -⟩ := (pairing tags).of_compile compiled
  exact paired

/-- The second operand, which would report a missing tag, is left out since the first one holds. -/
theorem large_short_circuit :
    ∃ c, compile none "size > 10 || countTag(\"gone\") > 0" = .ok c ∧ c.expr.paired = true ∧
      ((c.expr.holds ⟨{}, ⟨1⟩, { size := 11 }, []⟩).run ⟨{}, []⟩).1 =
        (c.expr.alone ⟨{}, ⟨1⟩, { size := 11 }, []⟩ ⟨{}, []⟩).truth ∧
      ((c.expr.holds ⟨{}, ⟨1⟩, { size := 11 }, []⟩).run ⟨{}, []⟩).2.diagnostics = [] ∧
      ((c.expr.fullHolds ⟨{}, ⟨1⟩, { size := 11 }, []⟩).run ⟨{}, []⟩).2.diagnostics =
        ["Tag 'gone' not found"] := by
  have reported : (compile none "size > 10 || countTag(\"gone\") > 0").toOption.map (fun c =>
      (((c.expr.holds ⟨{}, ⟨1⟩, { size := 11 }, []⟩).run ⟨{}, []⟩).2.diagnostics,
        ((c.expr.fullHolds ⟨{}, ⟨1⟩, { size := 11 }, []⟩).run ⟨{}, []⟩).2.diagnostics)) =
      some ([], ["Tag 'gone' not found"]) := by
    decide +kernel
  obtain ⟨c, compiled, told⟩ := ok_of_map reported
  obtain ⟨early, full⟩ := Prod.mk.inj told
  have paired := paired_of_compile compiled
  exact ⟨c, compiled, paired, (c.expr.short_circuit _ _ paired).1, early, full⟩

end Compile

end TagRules
