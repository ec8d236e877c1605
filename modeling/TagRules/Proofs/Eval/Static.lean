import TagRules.Proofs.Eval.Course
import TagRules.Proofs.Expr.Dependencies

/-!
# Expressions that need no second look

Compiling notes whether a function follows the run state and the highest level of a keyword. An
expression for which it notes neither reads the description of the subject only: two evaluations
from the same state, at whatever times, of subjects that are described alike take the same course
(`Compile.static_holds`). So nothing that happens to a subject while it is running, and no passing
of time, changes the outcome.
-/

namespace TagRules

/-- Calls and keywords that stand for nothing that follows the run state or the time. -/
structure Lasting (calls : List (Builtin × List Operand)) (keywords : List Keyword) : Prop where
  calls : ∀ call ∈ calls, call.1.followsState = false
  keywords : ∀ k ∈ keywords, k.level = .static

/-- Neither a function nor a keyword that was compiled follows the run state or the time. -/
structure Draft.Lasts (d : Draft) : Prop where
  followsState : d.followsState = false
  level : d.level = .static

/-- A draft that lasts had nothing to forget. -/
theorem Draft.Lasts.of_grows {d d' : Draft} (lasts : d'.Lasts) (grows : d.Grows d') : d.Lasts where
  followsState := by
    cases follows : d.followsState with
    | false => rfl
    | true => exact absurd (grows.followsState follows) (by simp [lasts.followsState])
  level := by
    have bound : d.level.rank ≤ d'.level.rank := grows.level
    rw [lasts.level] at bound
    cases level : d.level with
    | static => rfl
    | runningState => simp [level, Level.rank] at bound
    | time => simp [level, Level.rank] at bound

namespace Lasting

variable {calls : List (Builtin × List Operand)} {keywords : List Keyword}

theorem nil : Lasting [] [] :=
  ⟨fun _ mem => absurd mem List.not_mem_nil, fun _ mem => absurd mem List.not_mem_nil⟩

theorem cons {call : Builtin × List Operand} (head : call.1.followsState = false)
    (rest : Lasting calls keywords) : Lasting (call :: calls) keywords :=
  ⟨List.forall_mem_cons.2 ⟨head, rest.calls⟩, rest.keywords⟩

theorem exprs {es : List Expr} (each : ∀ e ∈ es, Lasting e.calls e.keywords) :
    Lasting (exprsCalls es) (exprsKeywords es) := by
  constructor
  · intro call mem
    obtain ⟨e, among, inside⟩ := Compile.mem_exprsCalls.1 mem
    exact (each e among).calls call inside
  · intro k mem
    obtain ⟨e, among, inside⟩ := Compile.mem_exprsKeywords.1 mem
    exact (each e among).keywords k inside

theorem operands {args : List Operand} (each : ∀ a ∈ args, Lasting a.calls a.keywords) :
    Lasting (operandsCalls args) (operandsKeywords args) := by
  constructor
  · intro call mem
    obtain ⟨a, among, inside⟩ := Compile.mem_operandsCalls.1 mem
    exact (each a among).calls call inside
  · intro k mem
    obtain ⟨a, among, inside⟩ := Compile.mem_operandsKeywords.1 mem
    exact (each a among).keywords k inside

end Lasting

namespace Compile

/-- A word that leaves the draft lasting is no keyword that follows the run state or the time. -/
theorem lasting_word {d d' : Draft} {token : List Char} {a : Operand} (stands : Word d token a d')
    (lasts : d'.Lasts) : Lasting a.calls a.keywords := by
  cases stands with
  | number => exact .nil
  | digits => exact .nil
  | bare => exact .nil
  | @keyword k =>
    refine ⟨fun _ mem => absurd mem List.not_mem_nil, fun k' mem => ?_⟩
    obtain rfl := List.mem_singleton.1 mem
    have level : max d.level k'.level = .static := lasts.level
    revert level
    cases d.level <;> cases k'.level <;> decide

/-- A call that leaves the draft lasting does not follow the run state, and its arguments last. -/
theorem lasting_call {tags : Option TagStore} {d d' : Draft} {f : Builtin} {name : String}
    {args args' : List Operand} {p : Option Pattern}
    (each : ∀ a ∈ args, d.Lasts → Lasting a.calls a.keywords)
    (settled : Settled tags d f args args' p d') (lasts : (noteFunction d' f).Lasts) :
    Lasting (Expr.calls (.call f name args' p)) (Expr.keywords (.call f name args' p)) := by
  have before := lasts.of_grows (settled.grows.1.trans (noteFunction_grows d' f).1)
  have inner := Lasting.operands fun a mem => each a mem before
  rw [← settled.parts.1, ← settled.parts.2] at inner
  refine .cons ?_ inner
  cases follows : f.followsState with
  | false => rfl
  | true =>
    have noted := lasts.followsState
    simp [noteFunction, follows] at noted

/-- While the draft lasts, so does all that was compiled. -/
def lasting (tags : Option TagStore) : Invariant tags where
  onExpr d e := d.Lasts → Lasting e.calls e.keywords
  onOperand d a := d.Lasts → Lasting a.calls a.keywords
  grow_expr grows h lasts := h (lasts.of_grows grows)
  grow_operand grows h lasts := h (lasts.of_grows grows)
  of_literal _ := .nil
  of_not h _ lasts := h lasts
  of_combination mem _ each lasts := by
    rw [(parts_of_combination mem _).1, (parts_of_combination mem _).2]
    exact .exprs fun e mem => (each e mem).1 lasts
  of_text _ := .nil
  of_word _ stands lasts := lasting_word stands lasts
  of_expr h := h
  of_call each _ _ _ settled lasts := lasting_call each settled lasts

end Compile

/-- Two states of one subject with the same description. What it is doing, its counters, its
timeline and what is known of its swarm may differ. -/
structure SubjectRecord.SameDescription (r r' : SubjectRecord) : Prop where
  id : r'.id = r.id
  name : r'.name = r.name
  size : r'.size = r.size
  files : r'.files = r.files
  networks : r'.networks = r.networks
  isPrivate : r'.isPrivate = r.isPrivate
  magnet : r'.magnet = r.magnet
  lowNoise : r'.lowNoise = r.lowNoise
  canArchive : r'.canArchive = r.canArchive

/-- Two occasions to evaluate for one tag and one subject: the time of day may differ and the subject
may have moved on. Settings come from the same source and expire alike. -/
structure Scene.Occasion (sc sc' : Scene) : Prop where
  owner : sc'.owner = sc.owner
  tags : sc'.tags = sc.tags
  subject : sc.subject.SameDescription sc'.subject
  config : sc'.world.config = sc.world.config
  ticks : sc'.world.ticks = sc.world.ticks

namespace Eval

variable {sc sc' : Scene}

theorem keyword_same (same : sc.Occasion sc') (store : TagStore) {k : Keyword}
    (static : k.level = .static) : keyword sc' store k = keyword sc store k := by
  cases k <;> first
    | exact absurd static (by decide)
    | simp only [keyword, same.subject.size, same.subject.files]

theorem string_same (same : sc.Occasion sc') (a : Operand) : string sc' a = string sc a := by
  simp only [string, same.subject.name, report_congr same.owner]

theorem fileNames_same (same : sc.Occasion sc') : fileNames sc' = fileNames sc := by
  simp only [fileNames, Services.readFileNames, SubjectRecord.fileNames, same.subject.id,
    same.subject.files]

theorem strings_same (same : sc.Occasion sc') (a : Operand) : strings sc' a = strings sc a := by
  simp only [strings, fileNames_same same, string_same same]

theorem matching_same (same : sc.Occasion sc') (p : Pattern) (a : Operand) :
    matching sc' p a = matching sc p a := by
  simp only [matching, fileNames_same same, string_same same, same.subject.id]

theorem setting_same (same : sc.Occasion sc') (key : String) :
    setting sc' key = setting sc key := by
  simp only [setting, same.config, same.ticks, report_congr same.owner]

theorem countTag_same (same : sc.Occasion sc') (name : String) :
    countTag sc' name = countTag sc name := by
  simp only [countTag, report_congr same.owner]

theorem fact_same (same : sc.Occasion sc') {f : Builtin} (steady : f.followsState = false)
    (text : String) : fact sc' f text = fact sc f text := by
  cases f <;> first
    | exact absurd steady (by decide)
    | simp only [fact, same.tags, same.subject.networks, same.subject.isPrivate,
        same.subject.magnet, same.subject.lowNoise, same.subject.canArchive]

/-- Apart from the script, which sees the whole subject, only facts about the subject tell the two
occasions apart. -/
theorem plainCall_same (same : sc.Occasion sc') {f : Builtin} (scriptless : f ≠ .javascript)
    (facts : ∀ text, fact sc' f text = fact sc f text) (args : List Operand) (p : Option Pattern) :
    plainCall sc' f args p = plainCall sc f args p := by
  unfold plainCall
  split
  · simp only [countTag_same same]
  · simp only [setting_same same]
  · exact absurd rfl scriptless
  · simp only [strings_same same, string_same same]
  · simp only [matching_same same]
  · rw [facts]

theorem condition_same (same : sc.Occasion sc') (e : Expr) (v : Value) :
    condition sc' e v = condition sc e v :=
  condition_congr same.owner e v

end Eval

open Eval

/-- What lasts is answered alike on both occasions. -/
theorem Scene.Occasion.agrees {sc sc' : Scene} (same : sc.Occasion sc')
    {calls : List (Builtin × List Operand)} {keywords : List Keyword}
    (lasting : Lasting calls keywords) : sc.Agrees sc' calls keywords where
  owner := same.owner
  call := fun {f args} mem p => by
    have steady : f.followsState = false := lasting.calls _ mem
    refine plainCall_same same ?_ (fact_same same steady) args p
    rintro rfl
    exact absurd steady (by decide)
  keyword := fun mem store => keyword_same same store (lasting.keywords _ mem)

/-- An expression that lasts takes the same course on both occasions. -/
theorem Expr.value_same {sc sc' : Scene} (same : sc.Occasion sc') (e : Expr)
    (lasting : Lasting e.calls e.keywords) : e.value sc' = e.value sc :=
  e.value_agrees (same.agrees lasting)

namespace Compile

/-- An expression that was compiled without a function that follows the run state and at the lowest
level has the same outcome, with the same diagnostics and the same effect on caches, whatever became
of the run state of the subject, its counters, its timeline and its swarm, and at whatever time. -/
theorem static_holds {tags : Option TagStore} {text : String} {c : Compiled}
    (compiled : compile tags text = .ok c) (steady : c.followsState = false)
    (static : c.level = .static) {sc sc' : Scene} (same : sc.Occasion sc') (s : EvalState) :
    (c.expr.holds sc').run s = (c.expr.holds sc).run s := by
  obtain ⟨d, known, lasts, -⟩ := (lasting tags).of_compile compiled
  rw [known] at steady static
  simp only [Expr.holds, c.expr.value_same same (lasts ⟨steady, static⟩), condition_same same]

/-- Later on, when the subject is seeding and was paused, a condition on its size and its tags has the
same outcome, and the same report of a tag that is not there. -/
theorem largeUntagged_static :
    ∃ c, compile none "size > 10 && !hasTag(\"keep\") && countTag(\"gone\") < 1" = .ok c ∧
      c.followsState = false ∧ c.level = .static ∧ ∀ s,
        (c.expr.holds ⟨{ now := ⟨1700000000, 0⟩ }, ⟨1⟩,
            { size := 20, state := .seeding, paused := true }, []⟩).run s =
          (c.expr.holds ⟨{}, ⟨1⟩, { size := 20 }, []⟩).run s := by
  have noted : ((compile none "size > 10 && !hasTag(\"keep\") && countTag(\"gone\") < 1").toOption.map
      fun c => (c.followsState, c.level)) = some (false, .static) := by
    decide +kernel
  cases compiled : compile none "size > 10 && !hasTag(\"keep\") && countTag(\"gone\") < 1" with
  | error e => simp [compiled, Except.toOption] at noted
  | ok c =>
    simp only [compiled, Except.toOption, Option.map_some, Option.some.injEq, Prod.mk.injEq] at noted
    obtain ⟨steady, static⟩ := noted
    exact ⟨c, rfl, steady, static,
      static_holds compiled steady static ⟨rfl, rfl, ⟨rfl, rfl, rfl, rfl, rfl, rfl, rfl, rfl, rfl⟩,
        rfl, rfl⟩⟩

end Compile

end TagRules
