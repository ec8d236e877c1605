import TagRules.Proofs.Eval.Reading
import TagRules.Proofs.Expr.Invariant

/-!
# The tags that an expression tests

Compiling against a store notes the constrainable tags that the expression tests, and misses none
(`Compile.mem_dependsOn`): whatever name `hasTag` is given anywhere in the expression, the
constrainable tags of that name are among the dependencies.
-/

namespace TagRules

namespace Compile

/-- The constrainable tags that some calls test are among the dependencies of a draft. -/
def Covers (store : TagStore) (d : Draft) (calls : List (Builtin × List Operand)) : Prop :=
  ∀ args, (.hasTag, args) ∈ calls → ∀ tag ∈ store.tagsByName (textAt args 0),
    tag.constrainable = true → tag.id ∈ d.dependsOn

theorem mem_exprsCalls {call : Builtin × List Operand} {es : List Expr} :
    call ∈ exprsCalls es ↔ ∃ e ∈ es, call ∈ e.calls := by
  induction es with
  | nil => simp [exprsCalls]
  | cons e es ih => simp [exprsCalls, ih]

theorem mem_operandsCalls {call : Builtin × List Operand} {args : List Operand} :
    call ∈ operandsCalls args ↔ ∃ a ∈ args, call ∈ a.calls := by
  induction args with
  | nil => simp [operandsCalls]
  | cons a args ih => simp [operandsCalls, ih]

theorem mem_exprsKeywords {k : Keyword} {es : List Expr} :
    k ∈ exprsKeywords es ↔ ∃ e ∈ es, k ∈ e.keywords := by
  induction es with
  | nil => simp [exprsKeywords]
  | cons e es ih => simp [exprsKeywords, ih]

theorem mem_operandsKeywords {k : Keyword} {args : List Operand} :
    k ∈ operandsKeywords args ↔ ∃ a ∈ args, k ∈ a.keywords := by
  induction args with
  | nil => simp [operandsKeywords]
  | cons a args ih => simp [operandsKeywords, ih]

/-- A combination has the calls and the keywords of its operands. -/
theorem parts_of_combination {separator : List Char} {combine : List Expr → Expr}
    (mem : (separator, combine) ∈ combinations) (es : List Expr) :
    (combine es).calls = exprsCalls es ∧ (combine es).keywords = exprsKeywords es := by
  cases Combination.of_mem mem <;> exact ⟨rfl, rfl⟩

/-- Arguments have the same calls and keywords once they are settled. -/
theorem Settled.parts {tags : Option TagStore} {d d' : Draft} {f : Builtin}
    {args args' : List Operand} {p : Option Pattern} (h : Settled tags d f args args' p d') :
    operandsCalls args' = operandsCalls args ∧
      operandsKeywords args' = operandsKeywords args := by
  cases h <;> exact ⟨rfl, rfl⟩

variable {store : TagStore} {d d' : Draft}

theorem Covers.grow {calls : List (Builtin × List Operand)} (grows : d.Grows d')
    (h : Covers store d calls) : Covers store d' calls :=
  fun args mem tag named constrainable => grows.dependsOn _ (h args mem tag named constrainable)

theorem covers_exprs {es : List Expr} (each : ∀ e ∈ es, Covers store d e.calls) :
    Covers store d (exprsCalls es) := by
  intro args mem
  obtain ⟨e, inside, mem⟩ := mem_exprsCalls.1 mem
  exact each e inside args mem

theorem covers_operands {args : List Operand} (each : ∀ a ∈ args, Covers store d a.calls) :
    Covers store d (operandsCalls args) := by
  intro args' mem
  obtain ⟨a, inside, mem⟩ := mem_operandsCalls.1 mem
  exact each a inside args' mem

theorem covers_nil : Covers store d [] :=
  fun _ mem => absurd mem List.not_mem_nil

/-- A call notes the tags that it tests itself. -/
theorem covers_call {f : Builtin} {name : String} {args args' : List Operand}
    {p : Option Pattern} (each : ∀ a ∈ args, Covers store d a.calls)
    (settled : Settled (some store) d f args args' p d') :
    Covers store (noteFunction d' f) (Expr.calls (.call f name args' p)) := by
  have inner := (covers_operands each).grow (settled.grows.1.trans (noteFunction_grows d' f).1)
  rw [← settled.parts.1] at inner
  intro args'' mem tag named constrainable
  rcases List.mem_cons.1 mem with same | inside
  · cases same
    cases settled with
    | @hasTag name _ tested =>
      obtain ⟨-, rfl⟩ := testTag_eq_ok.1 tested
      refine (noteFunction_grows _ _).1.dependsOn _ (mem_noteTags.2 (.inr ?_))
      exact List.mem_map.2 ⟨tag, List.mem_filter.2 ⟨named, constrainable⟩, rfl⟩
    | plain other => simp at other
  · exact inner args'' inside tag named constrainable

/-- All constrainable tags that an expression tests are noted. -/
def coverage (store : TagStore) : Invariant (some store) where
  onExpr d e := Covers store d e.calls
  onOperand d a := Covers store d a.calls
  grow_expr := .grow
  grow_operand := .grow
  of_literal := covers_nil
  of_not h _ := h
  of_combination mem _ each := by
    rw [(parts_of_combination mem _).1]
    exact covers_exprs fun e mem => (each e mem).1
  of_text := covers_nil
  of_word _ stands := by
    cases stands <;> exact covers_nil
  of_expr h := h
  of_call each _ _ _ settled := covers_call each settled

/-- The dependencies of a compiled expression contain every constrainable tag that it tests. -/
theorem mem_dependsOn {text : String} {c : Compiled} (h : compile (some store) text = .ok c)
    {name : String} (tested : name ∈ c.expr.tagNames) {tag : Tag}
    (named : tag ∈ store.tagsByName name) (constrainable : tag.constrainable = true) :
    tag.id ∈ c.dependsOn := by
  obtain ⟨d, known, covers, -⟩ := (coverage store).of_compile h
  obtain ⟨⟨f, args⟩, mem, found⟩ := List.mem_filterMap.1 tested
  simp only [Option.ite_none_right_eq_some, Option.some.injEq] at found
  obtain ⟨rfl, rfl⟩ := found
  rw [known]
  exact covers args mem tag named constrainable

end Compile

end TagRules
