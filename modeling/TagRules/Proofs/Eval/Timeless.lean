import TagRules.Proofs.Eval.Static

/-!
# Expressions that the clock does not change

Compiling notes the highest level of a keyword, so below the highest level no keyword of an
expression has it (`Compile.bounded`). Such an expression asks nothing of the clock, except that
`lastactive` counts the seconds since the subject was last active although it is classed as run
state. Apart from it, evaluating at another instant for the same subject has the same outcome
(`Compile.timeless_holds`). A bound on `lastactive` is passed by the clock alone, as for any keyword
of the highest level (`Compile.idleMinute_passes`).
-/

namespace TagRules

namespace Level

theorem eq_time {a : Level} (above : time ≤ a) : a = time := by
  revert above
  cases a <;> decide

end Level

/-- What was compiled has no keyword above the level that was noted. -/
def Draft.Bounds (d : Draft) (keywords : List Keyword) : Prop :=
  ∀ k ∈ keywords, k.level ≤ d.level

namespace Draft.Bounds

variable {d d' : Draft} {keywords : List Keyword}

theorem nil : d.Bounds [] :=
  fun _ mem => absurd mem List.not_mem_nil

theorem grow (grows : d.Grows d') (bounds : d.Bounds keywords) : d'.Bounds keywords :=
  fun k mem => Level.le_trans (bounds k mem) grows.level

theorem exprs {es : List Expr} (each : ∀ e ∈ es, d.Bounds e.keywords) :
    d.Bounds (exprsKeywords es) := by
  intro k mem
  obtain ⟨e, among, inside⟩ := Compile.mem_exprsKeywords.1 mem
  exact each e among k inside

theorem operands {args : List Operand} (each : ∀ a ∈ args, d.Bounds a.keywords) :
    d.Bounds (operandsKeywords args) := by
  intro k mem
  obtain ⟨a, among, inside⟩ := Compile.mem_operandsKeywords.1 mem
  exact each a among k inside

end Draft.Bounds

namespace Compile

theorem bounds_word {d d' : Draft} {token : List Char} {a : Operand} (stands : Word d token a d') :
    d'.Bounds a.keywords := by
  cases stands with
  | number => exact .nil
  | digits => exact .nil
  | bare => exact .nil
  | @keyword k =>
    intro k' mem
    obtain rfl := List.mem_singleton.1 mem
    exact Level.le_max_right d.level k'.level

theorem bounds_call {tags : Option TagStore} {d d' : Draft} {f : Builtin} {name : String}
    {args args' : List Operand} {p : Option Pattern} (each : ∀ a ∈ args, d.Bounds a.keywords)
    (settled : Settled tags d f args args' p d') :
    (noteFunction d' f).Bounds (Expr.keywords (.call f name args' p)) := by
  have inner := (Draft.Bounds.operands each).grow (settled.grows.1.trans (noteFunction_grows d' f).1)
  rwa [← settled.parts.2] at inner

/-- No keyword is above the level that compiling notes. -/
def bounded (tags : Option TagStore) : Invariant tags where
  onExpr d e := d.Bounds e.keywords
  onOperand d a := d.Bounds a.keywords
  grow_expr grows h := h.grow grows
  grow_operand grows h := h.grow grows
  of_literal := .nil
  of_not h _ := h
  of_combination mem _ each := by
    rw [(parts_of_combination mem _).2]
    exact .exprs fun e mem => (each e mem).1
  of_text := .nil
  of_word _ stands := bounds_word stands
  of_expr h := h
  of_call each _ _ _ settled := bounds_call each settled

end Compile

namespace Eval

variable {sc sc' : Scene}

/-- Below the highest level only `lastactive` reads the clock, and it does so for a subject that was
ever active. -/
theorem keyword_timeless (subject : sc'.subject = sc.subject) {k : Keyword} (below : k.level ≠ .time)
    (inactive : k = .lastActive → sc.subject.timeline.lastActive = none) (store : TagStore) :
    keyword sc' store k = keyword sc store k := by
  cases k <;> first
    | exact absurd rfl below
    | simp only [keyword, subject, inactive]

/-- The same subject under the same tags has the same facts. -/
theorem fact_timeless (same : sc.Occasion sc') (subject : sc'.subject = sc.subject) (f : Builtin)
    (text : String) : fact sc' f text = fact sc f text := by
  simp only [fact, same.tags, subject]

end Eval

namespace Compile

open Eval

/-- An expression that was compiled below the highest level and runs no script has the same outcome
at any two instants, with the same diagnostics and the same effect on caches, unless it asks how long
ago a subject was active that was active before. -/
theorem timeless_holds {tags : Option TagStore} {text : String} {c : Compiled}
    (compiled : compile tags text = .ok c) (below : c.level ≠ .time)
    (scriptless : ∀ call ∈ c.expr.calls, call.1 ≠ .javascript) {sc sc' : Scene}
    (same : sc.Occasion sc') (subject : sc'.subject = sc.subject)
    (inactive : .lastActive ∈ c.expr.keywords → sc.subject.timeline.lastActive = none)
    (s : EvalState) : (c.expr.holds sc').run s = (c.expr.holds sc).run s := by
  obtain ⟨d, known, bounds, -⟩ := (bounded tags).of_compile compiled
  have low : ∀ k ∈ c.expr.keywords, k.level ≠ .time := by
    intro k mem high
    have above : .time ≤ d.level := high ▸ bounds k mem
    rw [known] at below
    exact below (Level.eq_time above)
  have agrees : sc.Agrees sc' c.expr.calls c.expr.keywords := by
    constructor
    · exact same.owner
    · intro f args mem p
      exact plainCall_same same (scriptless _ mem) (fact_timeless same subject f) args p
    · intro k mem store
      apply keyword_timeless subject (low k mem)
      rintro rfl
      exact inactive mem
  rw [Expr.holds_agrees agrees]

/-- What is below the highest level, runs no script and names no `lastactive`, or names it for a
subject that was never active: a condition on what was uploaded, at two instants ninety seconds
apart. -/
theorem uploading_timeless :
    ∃ c, compile none "percent > 50 && upidle < 10 || lastactive > 60" = .ok c ∧
      c.level ≠ .time ∧ (∀ call ∈ c.expr.calls, call.1 ≠ .javascript) ∧ ∀ s,
        (c.expr.holds ⟨{ now := ⟨1700000120, 0⟩ }, ⟨1⟩, { stats.uploadIdle := some 3 }, []⟩).run s =
          (c.expr.holds ⟨{ now := ⟨1700000030, 0⟩ }, ⟨1⟩,
            { stats.uploadIdle := some 3 }, []⟩).run s := by
  have noted : ((compile none "percent > 50 && upidle < 10 || lastactive > 60").toOption.map
      fun c => (decide (c.level = .time), decide (∀ call ∈ c.expr.calls, call.1 ≠ .javascript))) =
        some (false, true) := by
    decide +kernel
  cases compiled : compile none "percent > 50 && upidle < 10 || lastactive > 60" with
  | error e => simp [compiled, Except.toOption] at noted
  | ok c =>
    simp only [compiled, Except.toOption, Option.map_some, Option.some.injEq, Prod.mk.injEq,
      decide_eq_false_iff_not, decide_eq_true_eq] at noted
    obtain ⟨below, scriptless⟩ := noted
    exact ⟨c, rfl, below, scriptless, timeless_holds compiled below scriptless
      ⟨rfl, rfl, ⟨rfl, rfl, rfl, rfl, rfl, rfl, rfl, rfl, rfl⟩, rfl, rfl⟩ rfl fun _ => rfl⟩

/-- A subject that was last active at some instant has not been idle for a minute after thirty
seconds, and has been after two minutes: the condition is below the highest level, and yet only the
clock decides it. -/
theorem idleMinute_passes :
    ∃ c, compile none "lastactive > 60" = .ok c ∧ c.level = .runningState ∧
      (∀ call ∈ c.expr.calls, call.1 ≠ .javascript) ∧
      ((c.expr.holds ⟨{ now := ⟨1700000030, 0⟩ }, ⟨1⟩,
          { timeline.lastActive := some ⟨1700000000, 0⟩ }, []⟩).run { services := {} }).1 = false ∧
      ((c.expr.holds ⟨{ now := ⟨1700000120, 0⟩ }, ⟨1⟩,
          { timeline.lastActive := some ⟨1700000000, 0⟩ }, []⟩).run { services := {} }).1 = true := by
  have noted : ((compile none "lastactive > 60").toOption.map fun c =>
      (c.level, decide (∀ call ∈ c.expr.calls, call.1 ≠ .javascript),
        ((c.expr.holds ⟨{ now := ⟨1700000030, 0⟩ }, ⟨1⟩,
          { timeline.lastActive := some ⟨1700000000, 0⟩ }, []⟩).run { services := {} }).1,
        ((c.expr.holds ⟨{ now := ⟨1700000120, 0⟩ }, ⟨1⟩,
          { timeline.lastActive := some ⟨1700000000, 0⟩ }, []⟩).run { services := {} }).1)) =
        some (.runningState, true, false, true) := by
    decide +kernel
  cases compiled : compile none "lastactive > 60" with
  | error e => simp [compiled, Except.toOption] at noted
  | ok c =>
    simp only [compiled, Except.toOption, Option.map_some, Option.some.injEq, Prod.mk.injEq,
      decide_eq_true_eq] at noted
    obtain ⟨level, scriptless, early, late⟩ := noted
    exact ⟨c, rfl, level, scriptless, early, late⟩

end Compile

end TagRules
