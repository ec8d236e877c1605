import Mathlib.Data.Fintype.Card
import Mathlib.Data.Fintype.EquivFin
import TagRules.Proofs.Expr.Dependencies
import TagRules.Proofs.Expr.Names
import TagRules.Proofs.Registry.Snapshot
import TagRules.Proofs.Rules.Declared

/-!
# The meaning of rules

What tags a subject carries in the end is a matter of equations, one for each rule: whether its tag
is carried depends on its condition, which is evaluated on all tags that are carried, and on the
tags that the subject started out with (`RuleSet.Stratified`). If the rules do not refer to each
other in circles, then the equations have at most one solution (`RuleSet.Stratified.mem_iff`). The
order of the rules and what a rule says about assignments make no difference to the equations
(`RuleSet.Rearranges.stratified`).
-/

namespace TagRules

/-- The truth of an expression for a subject that carries the tags of some names. -/
def Expr.truthOn (w : World) (r : SubjectRecord) (carried : List String) (e : Expr) : Bool :=
  ((e.holds ⟨w, ⟨0⟩, r, carried.map fun name => { id := ⟨0⟩, name }⟩).run { services := {} }).1

namespace Expr

variable {w : World} {r : SubjectRecord} {carried carried' : List String} {e : Expr}

theorem truthOn_eq_reading (w : World) (r : SubjectRecord) (carried : List String) (e : Expr) :
    e.truthOn w r carried =
      (e.reading ⟨w, ⟨0⟩, r, carried.map fun name => { id := ⟨0⟩, name }⟩
        (({} : Services).view w r)).truth :=
  (e.holds_reads _).result _

theorem any_name_map (carried : List String) (name : String) :
    (carried.map fun name => ({ id := ⟨0⟩, name } : Tag)).any (·.name == name) =
      carried.contains name := by
  rw [Bool.eq_iff_iff]
  simp

/-- An expression that asks about tags by name depends on the names that it asks about. -/
theorem ByName.truthOn_congr (byName : e.ByName)
    (same : ∀ name ∈ e.tagNames, name ∈ carried ↔ name ∈ carried') :
    e.truthOn w r carried = e.truthOn w r carried' := by
  rw [truthOn_eq_reading, truthOn_eq_reading]
  refine congrArg Value.truth (byName.reading_congr ?_ ⟨rfl, rfl, rfl⟩ fun name tested => ?_)
  · exact ⟨rfl, rfl, rfl, fun _ => rfl⟩
  · rw [any_name_map, any_name_map, Bool.eq_iff_iff]
    simpa using same name tested

end Expr

/-- What a rule lets its constraint do by itself. -/
def TagRule.switches (rule : TagRule) : Options :=
  .parse (Text.trimmed rule.options)

/-- A rule without what it says about assignments. -/
def TagRule.plain (rule : TagRule) : TagRule :=
  { rule with hasActions := false, maxMembers := 0 }

/-- What is left of rules that agree as far as assignments are left out. -/
theorem TagRule.eq_of_plain {rule rule' : TagRule} (same : rule'.plain = rule.plain) :
    rule'.name = rule.name ∧ rule'.constraint = rule.constraint ∧
      rule'.options = rule.options ∧ rule'.enabled = rule.enabled := by
  cases rule
  cases rule'
  simp_all [plain]

namespace RuleSet

/-- What the constraint of a rule compiles to, if it does. -/
def compiled? (s : RuleSet) (rule : TagRule) : Option Compiled :=
  rule.constraint.bind fun text => (compile (some s.store) (Text.trimmed text)).toOption

/-- The condition of a rule: that of its constraint, if that compiles and is enabled. -/
def condition? (s : RuleSet) (rule : TagRule) : Option Expr :=
  if rule.enabled then (s.compiled? rule).map (·.expr) else none

/-- The names that the constraint of a rule tests with `hasTag`. -/
def tested (s : RuleSet) (rule : TagRule) : List String :=
  ((s.compiled? rule).map fun c => s.store.namesOf c.dependsOn).getD []

/-- The rule of one name tests another name. -/
def Refers (s : RuleSet) (a b : String) : Prop :=
  ∃ rule ∈ s.rules, rule.name = a ∧ b ∈ s.tested rule

/-- No rule refers to itself through one or more rules. -/
def Acyclic (s : RuleSet) : Prop :=
  ∀ name, ¬Relation.TransGen s.Refers name name

/-- Rules that refer downwards only are without circles. -/
theorem Acyclic.of_rank {s : RuleSet} (rank : String → Nat)
    (lower : ∀ rule ∈ s.rules, ∀ name ∈ s.tested rule, rank name < rank rule.name) :
    s.Acyclic := by
  refine not_transGen_of_rank rank ?_
  rintro _ b ⟨rule, mem, rfl, tests⟩
  exact lower rule mem b tests

/-- The constraints ask about tags by name only. -/
def ByName (s : RuleSet) : Prop :=
  ∀ rule ∈ s.rules, ∀ c, s.compiled? rule = some c → c.expr.ByName

instance (s : RuleSet) : Decidable s.ByName :=
  inferInstanceAs (Decidable (∀ rule ∈ s.rules, ∀ c ∈ s.compiled? rule, c.expr.ByName))

/-- Whether a subject carries the tag of a rule, given all tags that it carries in the end. -/
def verdict (s : RuleSet) (w : World) (r : SubjectRecord) (carried : List String)
    (rule : TagRule) : Bool :=
  let initially := r.tags.contains rule.name
  match s.condition? rule with
  | none => initially
  | some e =>
    if e.truthOn w r carried then initially || rule.switches.autoAdd
    else initially && !rule.switches.autoRemove

/-- Some names are the tags that a subject carries in the end: they are declared, and each rule says
so of its own tag. -/
structure Stratified (s : RuleSet) (w : World) (r : SubjectRecord) (carried : List String) :
    Prop where
  declared : ∀ name ∈ carried, name ∈ s.names
  verdicts : ∀ rule ∈ s.rules, rule.name ∈ carried ↔ s.verdict w r carried rule = true

variable {s s' : RuleSet} {w : World} {r : SubjectRecord} {carried carried' : List String}
  {rule rule' : TagRule} {name : String}

theorem compiled?_eq_some {c : Compiled} :
    s.compiled? rule = some c ↔
      ∃ text, rule.constraint = some text ∧ compile (some s.store) (Text.trimmed text) = .ok c := by
  simp only [compiled?, Option.bind_eq_some_iff]
  refine exists_congr fun text => and_congr_right fun _ => ?_
  cases compile (some s.store) (Text.trimmed text) <;> simp [Except.toOption]

/-- A blank text does not compile. -/
theorem compiled?_of_blank {text : String} (given : rule.constraint = some text)
    (blank : (Text.trimmed text).isEmpty = true) : s.compiled? rule = none := by
  cases compiled : s.compiled? rule with
  | none => rfl
  | some c =>
    obtain ⟨text', given', found⟩ := compiled?_eq_some.1 compiled
    cases given.symm.trans given'
    obtain ⟨nonblank, -⟩ := Compile.run_eq_ok.1 (Compile.compile_eq_ok.1 found)
    rw [String.isEmpty_iff.1 blank] at nonblank
    cases nonblank

/-- A declared name that the expression of a constraint asks about is tested. -/
theorem mem_tested {c : Compiled} (compiled : s.compiled? rule = some c)
    (asked : name ∈ c.expr.tagNames) (declared : name ∈ s.names) : name ∈ s.tested rule := by
  obtain ⟨other, mem, rfl⟩ := List.mem_map.1 declared
  obtain ⟨id, numbered⟩ := mem_rules.1 mem
  have there : s.store.tag? id = some (other.toTag id) := store_tag?.2 ⟨other, numbered, rfl⟩
  obtain ⟨text, -, found⟩ := compiled?_eq_some.1 compiled
  have noted := Compile.mem_dependsOn found asked
    (TagStore.mem_tagsByName.2 ⟨⟨id, there⟩, rfl⟩) rfl
  unfold tested TagStore.namesOf
  rw [compiled]
  exact List.mem_filterMap.2 ⟨id, noted, by rw [there]; rfl⟩

/-- References without cycles lead downwards. -/
theorem Acyclic.wellFounded (acyclic : s.Acyclic) :
    WellFounded fun b a : { name // name ∈ s.names } => Relation.TransGen s.Refers a b := by
  have : IsTrans { name // name ∈ s.names } fun b a => Relation.TransGen s.Refers a b :=
    ⟨fun _ _ _ first second => second.trans first⟩
  have : Std.Irrefl fun b a : { name // name ∈ s.names } => Relation.TransGen s.Refers a b :=
    ⟨fun name cycle => acyclic name cycle⟩
  exact Finite.wellFounded_of_trans_of_irrefl _

/-- The verdict of a rule depends on the tags that it tests. -/
theorem verdict_congr (byName : s.ByName) (mem : rule ∈ s.rules)
    (same : ∀ e, s.condition? rule = some e →
      ∀ name ∈ e.tagNames, name ∈ carried ↔ name ∈ carried') :
    s.verdict w r carried rule = s.verdict w r carried' rule := by
  unfold verdict
  cases condition : s.condition? rule with
  | none => rfl
  | some e =>
    have compiled : ∃ c, s.compiled? rule = some c ∧ c.expr = e := by
      unfold condition? at condition
      split at condition
      · exact Option.map_eq_some_iff.1 condition
      · cases condition
    obtain ⟨c, compiled, rfl⟩ := compiled
    simp only [(byName rule mem c compiled).truthOn_congr (same _ condition)]

/-- Without cycles, rules allow of one solution. The induction is along the references. -/
theorem Stratified.mem_iff (acyclic : s.Acyclic) (byName : s.ByName)
    (first : s.Stratified w r carried) (second : s.Stratified w r carried') (name : String) :
    name ∈ carried ↔ name ∈ carried' := by
  by_cases declared : name ∈ s.names
  · generalize start : (⟨name, declared⟩ : { name // name ∈ s.names }) = a
    induction a using acyclic.wellFounded.induction generalizing name with
    | _ a ih =>
      subst start
      obtain ⟨rule, mem, rfl⟩ := List.mem_map.1 declared
      rw [first.verdicts rule mem, second.verdicts rule mem]
      refine Bool.eq_iff_iff.1 (verdict_congr byName mem fun e condition other asked => ?_)
      by_cases known : other ∈ s.names
      · refine ih ⟨other, known⟩ (.single ⟨rule, mem, rfl, ?_⟩) other known rfl
        unfold condition? at condition
        split at condition
        · obtain ⟨c, compiled, rfl⟩ := Option.map_eq_some_iff.1 condition
          exact mem_tested compiled asked known
        · cases condition
      · exact ⟨fun mem => absurd (first.declared other mem) known,
          fun mem => absurd (second.declared other mem) known⟩
  · exact ⟨fun mem => absurd (first.declared name mem) declared,
      fun mem => absurd (second.declared name mem) declared⟩

/-- The same rules in some order, as far as assignments are left out. -/
def Rearranges (s' s : RuleSet) : Prop :=
  (s'.rules.map TagRule.plain).Perm (s.rules.map TagRule.plain)

theorem mem_tagsByName_store {tag : Tag} (found : tag ∈ s.store.tagsByName name) :
    name ∈ s.names ∧ tag.constrainable = true := by
  obtain ⟨⟨id, there⟩, rfl⟩ := TagStore.mem_tagsByName.1 found
  obtain ⟨rule, numbered, rfl⟩ := store_tag?.1 there
  exact ⟨List.mem_map.2 ⟨rule, mem_rules.2 ⟨id, numbered⟩, rfl⟩, rfl⟩

theorem exists_tagsByName_store (declared : name ∈ s.names) :
    ∃ tag ∈ s.store.tagsByName name, tag.constrainable = true := by
  obtain ⟨rule, mem, rfl⟩ := List.mem_map.1 declared
  obtain ⟨id, numbered⟩ := mem_rules.1 mem
  exact ⟨rule.toTag id,
    TagStore.mem_tagsByName.2 ⟨⟨id, store_tag?.2 ⟨rule, numbered, rfl⟩⟩, rfl⟩, rfl⟩

/-- Compiling sees no difference between stores with the declared tags of the same names. -/
theorem store_sameNames (same : ∀ name, name ∈ s.names ↔ name ∈ s'.names) :
    s.store.SameNames s'.store where
  filed := s.store_filed
  filed' := s'.store_filed
  known name found := by
    obtain ⟨tag, mem⟩ := List.exists_mem_of_ne_nil _ found
    obtain ⟨other, there, -⟩ := exists_tagsByName_store ((same name).1 (mem_tagsByName_store mem).1)
    exact List.ne_nil_of_mem there
  constrainable name := by
    constructor
    · rintro ⟨tag, mem, -⟩
      exact exists_tagsByName_store ((same name).1 (mem_tagsByName_store mem).1)
    · rintro ⟨tag, mem, -⟩
      exact exists_tagsByName_store ((same name).2 (mem_tagsByName_store mem).1)

namespace Rearranges

variable (rearranges : s'.Rearranges s)
include rearranges

theorem symm : s.Rearranges s' :=
  List.Perm.symm rearranges

theorem names_perm : s'.names.Perm s.names := by
  have := List.Perm.map TagRule.name rearranges
  rwa [List.map_map, List.map_map] at this

/-- Each rule has its counterpart. -/
theorem exists_rule (mem : rule ∈ s.rules) : ∃ rule' ∈ s'.rules, rule'.plain = rule.plain :=
  List.mem_map.1 (rearranges.symm.subset (List.mem_map.2 ⟨rule, mem, rfl⟩))

theorem valid (valid : s.problem? = none) : s'.problem? = none := by
  rw [problem?_eq_none_iff] at valid ⊢
  refine ⟨fun rule mem => ?_, rearranges.names_perm.nodup_iff.2 valid.2⟩
  obtain ⟨rule', mem', same⟩ := rearranges.symm.exists_rule mem
  exact (TagRule.eq_of_plain same).1 ▸ valid.1 rule' mem'

/-- Constraints compile to the same expressions, which refer to the same names. -/
theorem exists_compiled {c : Compiled} (same : rule'.plain = rule.plain)
    (compiled : s.compiled? rule = some c) :
    ∃ c', s'.compiled? rule' = some c' ∧ c'.expr = c.expr ∧
      ∀ name, name ∈ s.tested rule ↔ name ∈ s'.tested rule' := by
  obtain ⟨text, given, found⟩ := compiled?_eq_some.1 compiled
  obtain ⟨c', found', expr, names⟩ :=
    Compile.compile_sameNames (store_sameNames fun _ => rearranges.names_perm.mem_iff.symm) found
  have given' : rule'.constraint = some text := (TagRule.eq_of_plain same).2.1.trans given
  have compiled' := compiled?_eq_some.2 ⟨text, given', found'⟩
  refine ⟨c', compiled', expr, ?_⟩
  unfold tested
  rw [compiled, compiled']
  exact names

theorem refers {a b : String} (h : s.Refers a b) : s'.Refers a b := by
  obtain ⟨rule, mem, rfl, tests⟩ := h
  obtain ⟨rule', mem', same⟩ := rearranges.exists_rule mem
  refine ⟨rule', mem', (TagRule.eq_of_plain same).1, ?_⟩
  cases compiled : s.compiled? rule with
  | none => simp [tested, compiled] at tests
  | some c =>
    obtain ⟨-, -, -, names⟩ := rearranges.exists_compiled same compiled
    exact (names b).1 tests

theorem acyclic (acyclic : s.Acyclic) : s'.Acyclic :=
  fun name cycle => acyclic name <|
    Relation.TransGen.mono (fun _ _ => rearranges.symm.refers) _ _ cycle

theorem byName (byName : s.ByName) : s'.ByName := by
  intro rule mem c compiled
  obtain ⟨rule', mem', same⟩ := rearranges.symm.exists_rule mem
  obtain ⟨c', compiled', expr, -⟩ := rearranges.symm.exists_compiled same compiled
  exact expr ▸ byName rule' mem' c' compiled'

theorem condition?_eq (same : rule'.plain = rule.plain) :
    s'.condition? rule' = s.condition? rule := by
  unfold condition?
  rw [(TagRule.eq_of_plain same).2.2.2]
  congr 1
  cases compiled : s.compiled? rule with
  | some c =>
    obtain ⟨c', compiled', expr, -⟩ := rearranges.exists_compiled same compiled
    rw [compiled', Option.map_some, Option.map_some, expr]
  | none =>
    cases compiled' : s'.compiled? rule' with
    | none => rfl
    | some c' =>
      obtain ⟨c, compiled'', -⟩ := rearranges.symm.exists_compiled same.symm compiled'
      cases compiled.symm.trans compiled''

/-- The equations are the same. -/
theorem stratified (h : s.Stratified w r carried) : s'.Stratified w r carried where
  declared name mem := rearranges.names_perm.mem_iff.2 (h.declared name mem)
  verdicts rule' mem' := by
    obtain ⟨rule, mem, same⟩ := rearranges.symm.exists_rule mem'
    obtain ⟨named, -, options, -⟩ := TagRule.eq_of_plain same
    have verdict : s'.verdict w r carried rule' = s.verdict w r carried rule := by
      simp only [verdict, rearranges.condition?_eq same.symm, named, TagRule.switches, options]
    rw [verdict, ← named]
    exact h.verdicts rule mem

end Rearranges

end RuleSet

end TagRules
