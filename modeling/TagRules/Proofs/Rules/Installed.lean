import TagRules.Proofs.Engine.Justified
import TagRules.Proofs.Registry.Sweeps
import TagRules.Proofs.Rules.Stratified

/-!
# The constraints of rules

Each rule that has a constraint installs it, compiled for the declared tags
(`RuleSet.install_installed`). What the rules say about each other carries over to the constraints:
where rules do not refer to each other in circles, their constraints do not depend on each other in
circles (`RuleSet.Installed.coherent`), and the constraints that can be applied are those of the
rules with a condition (`RuleSet.Installed.exists_constraint`).
-/

namespace TagRules

namespace RuleSet

variable {s : RuleSet} {w : World} {store : TagStore} {id u : TagId} {rule : TagRule}

/-- A constraint was made from a rule, for the declared tags. -/
structure Makes (s : RuleSet) (rule : TagRule) (id : TagId) (c : Constraint) : Prop where
  tag : c.tag = id
  options : c.options = rule.switches
  enabled : c.enabled = rule.enabled
  source : ∃ text earlier, rule.constraint = some text ∧ c.compiled = compile (some earlier) c.text ∧
    c.text = Text.trimmed text ∧ ∀ u, earlier.tag? u = s.store.tag? u

/-- Compiling a rule for the declared tags makes its constraint. -/
theorem makes_build (id : TagId) {text : String} (given : rule.constraint = some text)
    (tags : ∀ u, store.tag? u = s.store.tag? u) (serial : Nat) :
    s.Makes rule id (Constraint.build store serial id (Text.trimmed text)
      (Text.trimmed rule.options) rule.enabled).1 where
  tag := rfl
  options := by
    simp only [Constraint.build, Constraint.options, TagRule.switches]
  enabled := rfl
  source := ⟨text, store.setDiagnostic id none, given, Constraint.build_compiled _ _ _ _ _ _ rfl,
    rfl, fun u => (TagStore.tag?_setDiagnostic ..).trans (tags u)⟩

/-- The constraints of some rules are installed; nothing else has happened to an engine that works
on a store. -/
structure Installed (s : RuleSet) (w : World) (store : TagStore) (done : List (TagId × TagRule))
    (e : Engine) : Prop where
  rolls : e.registry.store.rolls = store.rolls
  truthful : e.registry.ledger.services.Truthful w
  history : e.registry.ledger.history = {}
  opened : e.registry.gate.isOpen = true
  running : e.registry.stopping = false
  waiting : e.queue = [] ∧ e.staged = {} ∧ e.initialised = false
  made : ∀ u c, e.registry.constraints.get? u = some c → ∃ rule, (u, rule) ∈ done ∧ s.Makes rule u c
  all : ∀ u rule, (u, rule) ∈ done → (s.compiled? rule).isSome = true →
    e.registry.constraints.contains u = true

theorem installed_nil (s : RuleSet) (w : World) (store : TagStore) (t : Timings) :
    s.Installed w store [] (engine store t) where
  rolls := rfl
  truthful := ⟨fun _ _ h => (nomatch h), fun _ _ h => (nomatch h), fun _ _ h => (nomatch h)⟩
  history := rfl
  opened := rfl
  running := rfl
  waiting := ⟨rfl, rfl, rfl⟩
  made _ _ found := nomatch found
  all _ _ mem := nomatch mem

namespace Installed

variable {done : List (TagId × TagRule)} {e : Engine}

/-- Whether the engine is active makes no difference as long as no subject was added to a tag. -/
theorem checkActive (installed : s.Installed w store done e) :
    s.Installed w store done e.checkActive := by
  obtain ⟨rolls, truthful, history, opened, running, waiting, made, all⟩ := installed
  unfold Engine.checkActive
  simp only []
  split
  · exact ⟨rolls, truthful, history, opened, running, waiting, made, all⟩
  · split
    · exact ⟨rolls, truthful.congr rfl rfl rfl, rfl, opened, running, waiting, made, all⟩
    · exact ⟨rolls, truthful, history, opened, running, waiting, made, all⟩

/-- A rule that makes no constraint. -/
theorem skip (installed : s.Installed w store done e) (none : s.compiled? rule = none) :
    s.Installed w store (done ++ [(id, rule)]) e where
  rolls := installed.rolls
  truthful := installed.truthful
  history := installed.history
  opened := installed.opened
  running := installed.running
  waiting := installed.waiting
  made u c found := by
    obtain ⟨rule, mem, makes⟩ := installed.made u c found
    exact ⟨rule, List.mem_append_left _ mem, makes⟩
  all u rule mem some := by
    rcases List.mem_append.1 mem with mem | mem
    · exact installed.all u rule mem some
    · cases List.mem_singleton.1 mem
      simp [none] at some

theorem get?_eq_none (installed : s.Installed w store done e) (new : id ∉ done.map (·.1)) :
    e.registry.constraints.get? id = none := by
  cases found : e.registry.constraints.get? id with
  | none => rfl
  | some c =>
    obtain ⟨other, mem, -⟩ := installed.made id c found
    exact absurd (List.mem_map.2 ⟨_, mem, rfl⟩) new

/-- A constraint that is made from a rule is put in, and nothing else happens. -/
theorem insert (installed : s.Installed w store done e) {c : Constraint} (makes : s.Makes rule id c)
    {e' : Engine} (constraints : e'.registry.constraints = e.registry.constraints.insert id c)
    (rolls : e'.registry.store.rolls = e.registry.store.rolls)
    (truthful : e'.registry.ledger.services.Truthful w)
    (history : e'.registry.ledger.history = e.registry.ledger.history)
    (gate : e'.registry.gate = e.registry.gate) (stopping : e'.registry.stopping = e.registry.stopping)
    (waiting : e'.queue = e.queue ∧ e'.staged = e.staged ∧ e'.initialised = e.initialised) :
    s.Installed w store (done ++ [(id, rule)]) e' where
  rolls := rolls.trans installed.rolls
  truthful := truthful
  history := history.trans installed.history
  opened := gate ▸ installed.opened
  running := stopping.trans installed.running
  waiting := ⟨waiting.1.trans installed.waiting.1, waiting.2.1.trans installed.waiting.2.1,
    waiting.2.2.trans installed.waiting.2.2⟩
  made u d found := by
    rw [constraints, Dict.get?_insert] at found
    split at found
    · next same =>
      subst same
      cases found
      exact ⟨rule, List.mem_append_right _ List.mem_cons_self, makes⟩
    · obtain ⟨rule', mem, makes⟩ := installed.made u d found
      exact ⟨rule', List.mem_append_left _ mem, makes⟩
  all u rule' mem some := by
    unfold Dict.contains
    rw [constraints, Dict.get?_insert]
    split
    · rfl
    · next other =>
      rcases List.mem_append.1 mem with mem | mem
      · exact installed.all u rule' mem some
      · cases List.mem_singleton.1 mem
        exact absurd rfl other

/-- A rule with a constraint installs it. -/
theorem setConstraint (installed : s.Installed w store done e)
    (tags : ∀ u, store.tag? u = s.store.tag? u) (new : id ∉ done.map (·.1)) {text : String}
    (given : rule.constraint = some text) :
    s.Installed w store (done ++ [(id, rule)])
      (e.setConstraint w id text rule.options rule.enabled).2 := by
  have fresh := installed.get?_eq_none new
  unfold Engine.setConstraint Registry.setConstraint
  simp only [Registry.constraint?, fresh, Option.map_none, Option.getD_none, Bool.false_eq_true,
    if_false]
  by_cases blank : (Text.trimmed text).isEmpty = true
  · -- A blank text does not compile, and there is nothing to take out.
    simp only [blank, if_true, Registry.removeConstraint, Dict.erase_of_get?_eq_none fresh]
    exact (installed.skip (compiled?_of_blank given blank)).checkActive
  · simp only [blank, installed.waiting.2.2, Bool.false_eq_true, if_false]
    have makes := makes_build id given
      (fun u => (TagStore.tag?_congr installed.rolls).trans (tags u)) e.registry.nextSerial
    have rolls := Registry.build_rolls e.registry.store e.registry.nextSerial id
      (Text.trimmed text) (Text.trimmed rule.options) rule.enabled
    generalize Constraint.build _ _ _ _ _ _ = built at rolls makes ⊢
    refine Installed.checkActive ?_
    exact installed.insert makes rfl rolls (installed.truthful.congr rfl rfl rfl) rfl rfl rfl
      ⟨rfl, rfl, installed.waiting.2.2.symm⟩

end Installed

/-- Install the constraint of one rule. -/
def installRule (w : World) (e : Engine) (entry : TagId × TagRule) : Engine :=
  match entry.2.constraint with
  | none => e
  | some text => (e.setConstraint w entry.1 text entry.2.options entry.2.enabled).2

theorem install_eq (w : World) (s : RuleSet) (e : Engine) :
    install w s e = s.numbered.foldl (installRule w) e :=
  rfl

/-- All constraints are installed in turn. -/
theorem install_installed (s : RuleSet) (w : World) (t : Timings)
    (tags : ∀ u, store.tag? u = s.store.tag? u) :
    s.Installed w store s.numbered (install w s (engine store t)) := by
  have fold (rules done : List (TagId × TagRule)) (e : Engine)
      (distinct : ((done ++ rules).map (·.1)).Nodup) (installed : s.Installed w store done e) :
      s.Installed w store (done ++ rules) (rules.foldl (installRule w) e) := by
    induction rules generalizing done e with
    | nil => rwa [List.append_nil]
    | cons first rules ih =>
      obtain ⟨id, rule⟩ := first
      have split : done ++ (id, rule) :: rules = done ++ [(id, rule)] ++ rules := by simp
      rw [split] at distinct ⊢
      refine ih _ _ distinct ?_
      unfold installRule
      cases given : rule.constraint with
      | none => exact installed.skip (by simp [compiled?, given])
      | some text =>
        refine installed.setConstraint tags (fun mem => ?_) given
        simp only [List.map_append, List.append_assoc] at distinct
        exact (List.nodup_append.1 distinct).2.2 id mem id List.mem_cons_self rfl
  rw [install_eq]
  exact fold s.numbered [] _ s.numbered_nodup (installed_nil s w store t)

variable {subjects : Dict SubjectId Subject} {c : Constraint} {e : Engine}

namespace Makes

/-- The constraint that a rule makes compiles if its text does for the declared tags. -/
theorem expr?_eq (makes : s.Makes rule id c) {compiled : Compiled}
    (found : s.compiled? rule = some compiled) : c.expr? = some compiled.expr := by
  obtain ⟨text, earlier, given, made, same, tags⟩ := makes.source
  obtain ⟨text', given', ok⟩ := compiled?_eq_some.1 found
  cases given.symm.trans given'
  obtain ⟨result, ok', expr, -⟩ := Compile.compile_sameNames
    (.of_tags s.store_filed fun u => (tags u).symm) ok
  unfold Constraint.expr?
  rw [made, same, ok']
  exact congrArg some expr

/-- A constraint that compiled is made from a rule that does, and depends on the names that this rule
tests. -/
theorem exists_compiled (makes : s.Makes rule id c) {result : Compiled}
    (ok : c.compiled = .ok result) :
    ∃ compiled, s.compiled? rule = some compiled ∧ compiled.expr = result.expr ∧
      ∀ name, name ∈ s.store.namesOf result.dependsOn ↔ name ∈ s.tested rule := by
  obtain ⟨text, earlier, given, made, same, tags⟩ := makes.source
  have filed : earlier.Filed := fun u tag found => s.store_filed u tag ((tags u).symm.trans found)
  rw [made, same] at ok
  obtain ⟨compiled, ok', expr, names⟩ := Compile.compile_sameNames (.of_tags filed tags) ok
  have found := compiled?_eq_some.2 ⟨text, given, ok'⟩
  refine ⟨compiled, found, expr, fun name => ?_⟩
  rw [← TagStore.namesOf_congr tags, names name]
  unfold tested
  rw [found]
  rfl

end Makes

/-- The name of a declared tag. -/
def nameOf (s : RuleSet) (id : TagId) : String :=
  ((s.store.tag? id).map (·.name)).getD ""

theorem nameOf_eq (mem : (id, rule) ∈ s.numbered) : s.nameOf id = rule.name := by
  unfold nameOf
  rw [store_tag?.2 ⟨rule, mem, rfl⟩]
  rfl

namespace Installed

/-- The constraints of rules that do not refer to each other in circles form no circles. -/
theorem acyclic (installed : s.Installed w store s.numbered e) (acyclic : s.Acyclic) :
    Constraint.Acyclic e.registry.constraints := by
  intro tag cycle
  refine acyclic (s.nameOf tag) (Relation.TransGen.lift s.nameOf (fun a b edge => ?_) _ _ cycle)
  obtain ⟨c, found, dep, target⟩ := edge
  obtain ⟨rule, mem, makes⟩ := installed.made a c found
  obtain ⟨d, found'⟩ := Option.isSome_iff_exists.1 target
  obtain ⟨rule', mem', -⟩ := installed.made b d found'
  refine ⟨rule, mem_rules.2 ⟨a, mem⟩, (nameOf_eq mem).symm, ?_⟩
  unfold Constraint.dependsOn at dep
  split at dep
  · next result ok =>
    obtain ⟨-, -, -, names⟩ := makes.exists_compiled ok
    refine (names _).1 (List.mem_filterMap.2 ⟨b, dep, ?_⟩)
    rw [store_tag?.2 ⟨rule', mem', rfl⟩, nameOf_eq mem']
    rfl
  · cases dep

theorem filed (installed : s.Installed w store s.numbered e) :
    Constraint.Filed e.registry.constraints := by
  intro u c found
  obtain ⟨rule, -, makes⟩ := installed.made u c found
  exact makes.tag

theorem isSome_tag? (installed : s.Installed w store s.numbered e)
    (tags : ∀ u, store.tag? u = s.store.tag? u) (u : TagId)
    (constrained : e.registry.constraints.contains u = true) : (store.tag? u).isSome = true := by
  obtain ⟨c, found⟩ := Option.isSome_iff_exists.1 constrained
  obtain ⟨rule, mem, -⟩ := installed.made u c found
  rw [tags u, store_tag?.2 ⟨rule, mem, rfl⟩]
  rfl

/-- The constraints of rules were compiled for the tags as they are. -/
theorem upToDate (installed : s.Installed w store s.numbered e)
    (tags : ∀ u, store.tag? u = s.store.tag? u) (u : TagId) (c : Constraint)
    (found : e.registry.constraints.get? u = some c) :
    c.UpToDate e.registry.constraints store := by
  obtain ⟨rule, -, makes⟩ := installed.made u c found
  obtain ⟨text, earlier, -, made, -, same⟩ := makes.source
  refine ⟨earlier, fun v tag at' => s.store_filed v tag ((same v).symm.trans at'), made,
    fun v => by rw [same v, tags v], fun v tag _ at' => ?_⟩
  obtain ⟨other, -, rfl⟩ := store_tag?.1 ((same v).symm.trans at')
  rfl

/-- The expression of a constraint is that of a rule. -/
theorem exists_compiled (installed : s.Installed w store s.numbered e)
    (found : e.registry.constraints.get? u = some c) {condition : Expr}
    (text : c.expr? = some condition) : ∃ rule compiled, (u, rule) ∈ s.numbered ∧
      s.compiled? rule = some compiled ∧ compiled.expr = condition := by
  obtain ⟨rule, mem, makes⟩ := installed.made u c found
  obtain ⟨result, ok, rfl, -⟩ := Constraint.compiled_of_expr? text
  obtain ⟨compiled, found', expr, -⟩ := makes.exists_compiled ok
  exact ⟨rule, compiled, mem, found', expr⟩

/-- The constraints of rules fit together. -/
theorem coherent (installed : s.Installed w store s.numbered e)
    (tags : ∀ u, store.tag? u = s.store.tag? u) (acyclic : s.Acyclic) (byName : s.ByName) :
    Constraint.Coherent e.registry.constraints store where
  filed := installed.filed
  acyclic := installed.acyclic acyclic
  tags := installed.isSome_tag? tags
  upToDate := installed.upToDate tags
  byName u c condition found text := by
    obtain ⟨rule, compiled, mem, found', rfl⟩ := installed.exists_compiled found text
    exact byName rule (mem_rules.2 ⟨u, mem⟩) compiled found'

/-- The condition of a rule is that of its constraint, which can be applied. -/
theorem exists_constraint (installed : s.Installed w store s.numbered e)
    (mem : (u, rule) ∈ s.numbered) {condition : Expr} (active : s.condition? rule = some condition) :
    ∃ c, e.registry.constraints.get? u = some c ∧ s.Makes rule u c ∧ c.isReady = true ∧
      c.expr? = some condition := by
  unfold condition? at active
  split at active
  · next enabled =>
    obtain ⟨compiled, found, rfl⟩ := Option.map_eq_some_iff.1 active
    obtain ⟨c, found'⟩ := Option.isSome_iff_exists.1 (installed.all u rule mem (by rw [found]; rfl))
    obtain ⟨rule', mem', makes⟩ := installed.made u c found'
    cases numbered_unique mem mem'
    have expr := makes.expr?_eq found
    refine ⟨c, found', makes, ?_, expr⟩
    rw [Constraint.isReady, expr, makes.enabled, enabled]
    rfl
  · cases active

/-- A constraint that can be applied is that of a rule with a condition. -/
theorem condition?_of_isReady (installed : s.Installed w store s.numbered e)
    (mem : (u, rule) ∈ s.numbered) (found : e.registry.constraints.get? u = some c)
    (ready : c.isReady = true) : s.condition? rule ≠ none := by
  obtain ⟨rule', mem', makes⟩ := installed.made u c found
  cases numbered_unique mem mem'
  obtain ⟨condition, text, enabled⟩ := Constraint.exists_expr_of_isReady ready
  obtain ⟨result, ok, -⟩ := Constraint.compiled_of_expr? text
  obtain ⟨compiled, found', -⟩ := makes.exists_compiled ok
  simp [condition?, ← makes.enabled, enabled, found']

end Installed

end RuleSet

end TagRules
