import TagRules.Proofs.Eval.Reading

/-!
# Scenes in which an expression takes the same course

What evaluation asks of a scene, it asks by a call or by a keyword; besides them it only names the
owner in what it reports. Two scenes that answer the calls and the keywords of an expression alike
therefore give it the same value from the same state, with the same diagnostics and the same effect
on caches (`Expr.value_agrees`). What part of a scene an expression reads is thereby a matter of its
calls and its keywords, one by one.
-/

namespace TagRules

namespace Eval

variable {sc sc' : Scene}

/-- A report goes to the owner. -/
theorem report_congr (owner : sc'.owner = sc.owner) (message : String) :
    report sc' message = report sc message := by
  simp only [report, owner]

theorem condition_congr (owner : sc'.owner = sc.owner) (e : Expr) (v : Value) :
    condition sc' e v = condition sc e v := by
  cases v with
  | bool b => rfl
  | number n => simp only [condition, report_congr owner]

end Eval

open Eval

/-- Two scenes that answer some calls and some keywords alike, and report to the same tag. -/
structure Scene.Agrees (sc sc' : Scene) (calls : List (Builtin × List Operand))
    (keywords : List Keyword) : Prop where
  owner : sc'.owner = sc.owner
  call {f args} : (f, args) ∈ calls → ∀ p, plainCall sc' f args p = plainCall sc f args p
  keyword {k} : k ∈ keywords → ∀ store, keyword sc' store k = keyword sc store k

namespace Scene.Agrees

variable {sc sc' : Scene} {calls calls' : List (Builtin × List Operand)}
  {keywords keywords' : List Keyword}

theorem append (agrees : sc.Agrees sc' (calls ++ calls') (keywords ++ keywords')) :
    sc.Agrees sc' calls keywords ∧ sc.Agrees sc' calls' keywords' where
  left := ⟨agrees.owner, fun mem => agrees.call (List.mem_append_left _ mem),
    fun mem => agrees.keyword (List.mem_append_left _ mem)⟩
  right := ⟨agrees.owner, fun mem => agrees.call (List.mem_append_right _ mem),
    fun mem => agrees.keyword (List.mem_append_right _ mem)⟩

theorem tail {call : Builtin × List Operand} (agrees : sc.Agrees sc' (call :: calls) keywords) :
    sc.Agrees sc' calls keywords :=
  ⟨agrees.owner, fun mem => agrees.call (List.mem_cons_of_mem _ mem), agrees.keyword⟩

end Scene.Agrees

/-- A call takes the same course in both scenes if its numeric arguments do. -/
theorem Expr.call_agrees {sc sc' : Scene} {f : Builtin} {name : String} {args : List Operand}
    {p : Option Pattern}
    (agrees : sc.Agrees sc' (Expr.calls (.call f name args p)) (Expr.keywords (.call f name args p)))
    (amounts : ∀ a ∈ args, a.amount sc' = a.amount sc) :
    Expr.value sc' (.call f name args p) = Expr.value sc (.call f name args p) := by
  unfold Expr.value
  split
  · cases args with
    | nil => rfl
    | cons a rest =>
      cases rest with
      | nil => rfl
      | cons b rest => simp only [amounts a (by simp), amounts b (by simp)]
  · cases args with
    | nil => rfl
    | cons a rest => simp only [amounts a (by simp)]
  · exact agrees.call List.mem_cons_self p

mutual

/-- Scenes that answer its calls and its keywords alike give an expression the same value. -/
theorem Expr.value_agrees {sc sc' : Scene} :
    ∀ e : Expr, sc.Agrees sc' e.calls e.keywords → e.value sc' = e.value sc
  | .literal v, _ => by simp only [Expr.value]
  | .not e, agrees => by
    simp only [Expr.value, e.value_agrees agrees, condition_congr agrees.owner]
  | .or es, agrees => by
    simp only [Expr.value, anyHolds_agrees es agrees]
  | .and es, agrees => by
    simp only [Expr.value, allHold_agrees es agrees]
  | .xor es, agrees => by
    simp only [Expr.value, oddHold_agrees es agrees, report_congr agrees.owner]
  | .call _ _ args _, agrees => Expr.call_agrees agrees (amounts_agree args agrees.tail)

theorem anyHolds_agrees {sc sc' : Scene} :
    ∀ es : List Expr, sc.Agrees sc' (exprsCalls es) (exprsKeywords es) →
      anyHolds sc' es = anyHolds sc es
  | [], _ => by simp only [anyHolds]
  | e :: es, agrees => by
    obtain ⟨first, rest⟩ := agrees.append
    simp only [anyHolds, e.value_agrees first, anyHolds_agrees es rest, condition_congr first.owner]

theorem allHold_agrees {sc sc' : Scene} :
    ∀ es : List Expr, sc.Agrees sc' (exprsCalls es) (exprsKeywords es) →
      allHold sc' es = allHold sc es
  | [], _ => by simp only [allHold]
  | e :: es, agrees => by
    obtain ⟨first, rest⟩ := agrees.append
    simp only [allHold, e.value_agrees first, allHold_agrees es rest, condition_congr first.owner]

theorem oddHold_agrees {sc sc' : Scene} :
    ∀ es : List Expr, sc.Agrees sc' (exprsCalls es) (exprsKeywords es) →
      oddHold sc' es = oddHold sc es
  | [], _ => by simp only [oddHold]
  | e :: es, agrees => by
    obtain ⟨first, rest⟩ := agrees.append
    simp only [oddHold, e.value_agrees first, oddHold_agrees es rest, condition_congr first.owner]

theorem Operand.amount_agrees {sc sc' : Scene} :
    ∀ a : Operand, sc.Agrees sc' a.calls a.keywords → a.amount sc' = a.amount sc
  | .number n, _ => by simp only [Operand.amount]
  | .expr e, agrees => by
    simp only [Operand.amount, e.value_agrees agrees, report_congr agrees.owner]
  | .keyword k, agrees => by
    have answer : ∀ store, keyword sc' store k = keyword sc store k :=
      agrees.keyword List.mem_cons_self
    simp only [Operand.amount, answer, report_congr agrees.owner]
  | .bare word, agrees => by simp only [Operand.amount, report_congr agrees.owner]
  | .text s, agrees => by simp only [Operand.amount, report_congr agrees.owner]

theorem amounts_agree {sc sc' : Scene} :
    ∀ args : List Operand, sc.Agrees sc' (operandsCalls args) (operandsKeywords args) →
      ∀ a ∈ args, a.amount sc' = a.amount sc
  | [], _ => fun _ mem => nomatch mem
  | a :: args, agrees => by
    obtain ⟨first, rest⟩ := agrees.append
    exact List.forall_mem_cons.2 ⟨a.amount_agrees first, amounts_agree args rest⟩

end

/-- Scenes that answer its calls and its keywords alike give an expression the same truth. -/
theorem Expr.holds_agrees {sc sc' : Scene} {e : Expr} (agrees : sc.Agrees sc' e.calls e.keywords) :
    e.holds sc' = e.holds sc := by
  simp only [Expr.holds, e.value_agrees agrees, condition_congr agrees.owner]

end TagRules
