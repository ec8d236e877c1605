import TagRules.Proofs.Registry.Firm
import TagRules.Proofs.Rules.Installed

/-!
# The order of the rules

Applying rules sweeps over their constraints in an order that follows the references by name
(`RuleSet.order`). The order is a matter of the rules: whatever memberships there are, installing the
rules gives the same constraints (`RuleSet.install_constraints`). References to groups are not
followed, so a rule may refer to one whose turn comes later (`RuleSet.Late`). Two sweeps make up for
one such reference on a chain of references (`RuleSet.Installed.grown_twice`).
-/

namespace TagRules

/-- Where tags have the same descriptors, the same constraint is built. -/
theorem Constraint.build_congr {a b : TagStore} (tags : ∀ u, a.tag? u = b.tag? u) (serial : Nat)
    (tag : TagId) (text options : String) (enabled : Bool) :
    (build a serial tag text options enabled).1 = (build b serial tag text options enabled).1 := by
  have cleared (u : TagId) : (a.setDiagnostic tag none).tag? u = (b.setDiagnostic tag none).tag? u := by
    rw [TagStore.tag?_setDiagnostic, TagStore.tag?_setDiagnostic, tags]
  unfold build
  dsimp only
  rw [Compile.compile_congr cleared text]
  split <;> simp only [sideEffects, TagStore.tag?_setDiagnostic, tags]

/-- Two registries with the same constraints and the same descriptors of tags. -/
structure Registry.Matches (r r' : Registry) : Prop where
  constraints : r'.constraints = r.constraints
  serial : r'.nextSerial = r.nextSerial
  tags : ∀ u, r'.store.tag? u = r.store.tag? u

namespace Registry.Matches

variable {r r' t t' : Registry}

theorem of_unmoved (matches' : r.Matches r') (first : r.Unmoved t) (second : r'.Unmoved t') :
    t.Matches t' where
  constraints := second.constraints.trans (matches'.constraints.trans first.constraints.symm)
  serial := second.serial.trans (matches'.serial.trans first.serial.symm)
  tags u := (TagStore.tag?_congr second.rolls).trans
    ((matches'.tags u).trans (TagStore.tag?_congr first.rolls).symm)

/-- The same constraint is installed in both. -/
theorem setConstraint (matches' : r.Matches r') (w w' : World) (tag : TagId) (text options : String)
    (enabled : Bool) : (r.setConstraint w tag text options enabled).2.Matches
      (r'.setConstraint w' tag text options enabled).2 := by
  have built := Constraint.build_congr matches'.tags r.nextSerial tag (Text.trimmed text)
    (Text.trimmed options) enabled
  have rolls (r : Registry) := build_rolls r.store r.nextSerial tag (Text.trimmed text)
    (Text.trimmed options) enabled
  have rolls' := rolls r'
  have rolls := rolls r
  unfold Registry.setConstraint Registry.constraint?
  rw [matches'.serial] at rolls' ⊢
  rw [matches'.constraints]
  dsimp only
  generalize Constraint.build r.store _ _ _ _ _ = first at built rolls ⊢
  generalize Constraint.build r'.store _ _ _ _ _ = second at built rolls' ⊢
  split
  · exact ⟨congrArg (·.erase tag) matches'.constraints, matches'.serial, matches'.tags⟩
  · split
    · exact matches'
    · refine ⟨?_, congrArg (· + 1) matches'.serial, fun u => ?_⟩
      · change r'.constraints.insert tag second.1 = r.constraints.insert tag first.1
        rw [matches'.constraints, built]
      · change second.2.tag? u = first.2.tag? u
        rw [TagStore.tag?_congr rolls, TagStore.tag?_congr rolls', matches'.tags]

end Registry.Matches

/-- What the engine does after installing a constraint concerns neither constraints nor tags. -/
theorem Engine.setConstraint_unmoved (e : Engine) (w : World) (tag : TagId) (text options : String)
    (enabled : Bool) : (e.registry.setConstraint w tag text options enabled).2.Unmoved
      (e.setConstraint w tag text options enabled).2.registry := by
  unfold setConstraint
  generalize e.registry.setConstraint w tag text options enabled = result
  obtain ⟨installed, registry⟩ := result
  refine Registry.Unmoved.trans ?_ (checkActive_unmoved _)
  cases installed with
  | none => exact .refl _
  | some c =>
    dsimp only
    split <;> exact .refl _

/-- A snapshot depends on the constraints only. -/
theorem Registry.snapshot_congr {r r' : Registry} (same : r.constraints = r'.constraints) :
    r.snapshot = r'.snapshot := by
  unfold snapshot
  rw [same]

namespace RuleSet

variable {s : RuleSet} {w : World} {store : TagStore} {u : TagId} {rule : TagRule} {c : Constraint}
  {e : Engine} {a b name : String}

/-- Installing the rules gives the same constraints whatever memberships there are. -/
theorem install_constraints (w : World) (t : Timings) (tags : ∀ u, store.tag? u = s.store.tag? u) :
    (install w s (engine store t)).registry.constraints =
      (install {} s (engine s.store {})).registry.constraints := by
  have fold (rules : List (TagId × TagRule)) (e e' : Engine)
      (matches' : e.registry.Matches e'.registry) :
      (rules.foldl (installRule {}) e).registry.Matches
        (rules.foldl (installRule w) e').registry := by
    induction rules generalizing e e' with
    | nil => exact matches'
    | cons first rules ih =>
      refine ih _ _ ?_
      unfold installRule
      split
      · exact matches'
      · exact (matches'.setConstraint ..).of_unmoved (Engine.setConstraint_unmoved ..)
          (Engine.setConstraint_unmoved ..)
  rw [install_eq, install_eq]
  exact (fold s.numbered (engine s.store {}) (engine store t) ⟨rfl, rfl, tags⟩).constraints

/-- The rules that can be applied, by name and in the order of a sweep. -/
def order (s : RuleSet) : List String :=
  ((install {} s (engine s.store {})).registry.snapshot.filter (·.isReady)).map fun c =>
    s.nameOf c.tag

/-- The order is that of any sweep over the constraints of the rules. -/
theorem order_eq (w : World) (t : Timings) (tags : ∀ u, store.tag? u = s.store.tag? u) :
    s.order = ((install w s (engine store t)).registry.snapshot.filter (·.isReady)).map fun c =>
      s.nameOf c.tag := by
  rw [order, Registry.snapshot_congr (install_constraints w t tags)]

/-- The groups that the constraint of a rule tests. -/
def testedGroups (s : RuleSet) (rule : TagRule) : List String :=
  ((s.compiled? rule).map (·.expr.groupNames)).getD []

/-- The names that the constraint of a rule tests, and those of the rules in the groups that it
tests. -/
def used (s : RuleSet) (rule : TagRule) : List String :=
  s.tested rule ++
    (s.rules.filter fun other => other.group.any (s.testedGroups rule).contains).map (·.name)

/-- The rule of one name tests another name, or the group of the rule of that name. -/
def Uses (s : RuleSet) (a b : String) : Prop :=
  ∃ rule ∈ s.rules, rule.name = a ∧ b ∈ s.used rule

/-- No rule uses itself through one or more rules. -/
def Founded (s : RuleSet) : Prop :=
  ∀ name, ¬Relation.TransGen s.Uses name name

/-- A rule that can be applied uses another one. -/
def Follows (s : RuleSet) (a b : String) : Prop :=
  a ∈ s.order ∧ s.Uses a b

/-- A rule uses one whose turn comes later. -/
def Late (s : RuleSet) (a b : String) : Prop :=
  s.Uses a b ∧ [a, b].Sublist s.order

/-- No chain of references from a rule leads to a rule whose turn comes after the one that uses it. -/
def Ordered (s : RuleSet) (name : String) : Prop :=
  ∀ a b, Relation.ReflTransGen s.Follows name a → ¬s.Late a b

/-- No chain of references from a rule leads twice to a rule whose turn comes after the one that uses
it. -/
def Grounded (s : RuleSet) (name : String) : Prop :=
  ∀ a b, Relation.ReflTransGen s.Follows name a → s.Late a b → s.Ordered b

theorem Ordered.of_follows (ordered : s.Ordered a) (edge : s.Follows a b) : s.Ordered b :=
  fun x y chain => ordered x y (.head edge chain)

theorem Grounded.of_follows (grounded : s.Grounded a) (edge : s.Follows a b) : s.Grounded b :=
  fun x y chain => grounded x y (.head edge chain)

/-- Rules that use downwards only are without circles. -/
theorem Founded.of_rank (rank : String → Nat)
    (lower : ∀ rule ∈ s.rules, ∀ name ∈ s.used rule, rank name < rank rule.name) : s.Founded := by
  refine not_transGen_of_rank rank ?_
  rintro _ b ⟨rule, mem, rfl, uses⟩
  exact lower rule mem b uses

theorem Founded.acyclic (founded : s.Founded) : s.Acyclic := by
  intro name cycle
  refine founded name (Relation.TransGen.mono ?_ _ _ cycle)
  rintro a b ⟨rule, mem, named, tests⟩
  exact ⟨rule, mem, named, List.mem_append_left _ tests⟩

/-- A rule is grounded if references to rules whose turn comes later are counted, and there is at most
one of them. -/
theorem Grounded.of_count (count : String → Nat)
    (steps : ∀ rule ∈ s.rules, ∀ b ∈ s.used rule,
      count b + (if [rule.name, b].Sublist s.order then 1 else 0) ≤ count rule.name)
    (low : count name ≤ 1) : s.Grounded name := by
  have down {a b : String} (uses : s.Uses a b) : count b ≤ count a := by
    obtain ⟨rule, mem, rfl, uses⟩ := uses
    exact Nat.le_trans (Nat.le_add_right _ _) (steps rule mem b uses)
  have chain {a b : String} (chain : Relation.ReflTransGen s.Follows a b) : count b ≤ count a := by
    induction chain with
    | refl => exact Nat.le_refl _
    | tail _ edge ih => exact Nat.le_trans (down edge.2) ih
  have late {a b : String} (late : s.Late a b) : count b < count a := by
    obtain ⟨⟨rule, mem, rfl, uses⟩, later⟩ := late
    have := steps rule mem b uses
    rwa [if_pos later] at this
  intro a b first one c d second another
  have := chain first
  have := late one
  have := chain second
  have := late another
  omega

/-- The constraints ask about tags that the subject carries. -/
def ByTag (s : RuleSet) : Prop :=
  ∀ rule ∈ s.rules, ∀ c, s.compiled? rule = some c → c.expr.ByTag

instance (s : RuleSet) : Decidable s.ByTag :=
  inferInstanceAs (Decidable (∀ rule ∈ s.rules, ∀ c ∈ s.compiled? rule, c.expr.ByTag))

namespace Installed

/-- The constraints of rules that do not use each other in circles fit together. -/
theorem compatible (installed : s.Installed w store s.numbered e)
    (tags : ∀ u, store.tag? u = s.store.tag? u) (founded : s.Founded) (byTag : s.ByTag) :
    Constraint.Compatible e.registry.constraints store where
  filed := installed.filed
  acyclic := installed.acyclic founded.acyclic
  tags := installed.isSome_tag? tags
  upToDate := installed.upToDate tags
  byTag u c condition found text := by
    obtain ⟨rule, compiled, mem, found', rfl⟩ := installed.exists_compiled found text
    exact byTag rule (mem_rules.2 ⟨u, mem⟩) compiled found'

/-- A rule uses what its constraint mentions. -/
theorem uses_of_mentions (installed : s.Installed w store s.numbered e)
    (tags : ∀ u, store.tag? u = s.store.tag? u) (found : e.registry.constraints.get? c.tag = some c)
    (mentions : c.Mentions store u) (constrained : e.registry.constraints.contains u = true) :
    s.Uses (s.nameOf c.tag) (s.nameOf u) := by
  obtain ⟨d, found'⟩ := Option.isSome_iff_exists.1 constrained
  obtain ⟨other, mem', -⟩ := installed.made u d found'
  rw [nameOf_eq mem']
  rcases mentions with dep | ⟨condition, tag, group, text, there, grouped, tested⟩
  · obtain ⟨rule, mem, makes⟩ := installed.made c.tag c found
    refine ⟨rule, mem_rules.2 ⟨_, mem⟩, (nameOf_eq mem).symm, List.mem_append_left _ ?_⟩
    unfold Constraint.dependsOn at dep
    split at dep
    · next result ok =>
      obtain ⟨-, -, -, names⟩ := makes.exists_compiled ok
      refine (names _).1 (List.mem_filterMap.2 ⟨u, dep, ?_⟩)
      rw [store_tag?.2 ⟨other, mem', rfl⟩]
      rfl
    · cases dep
  · obtain ⟨rule, compiled, mem, found'', rfl⟩ := installed.exists_compiled found text
    refine ⟨rule, mem_rules.2 ⟨_, mem⟩, (nameOf_eq mem).symm, List.mem_append_right _ ?_⟩
    refine List.mem_map.2 ⟨other, List.mem_filter.2 ⟨mem_rules.2 ⟨u, mem'⟩, ?_⟩, rfl⟩
    obtain ⟨same, numbered, rfl⟩ := store_tag?.1 ((tags u).symm.trans there)
    obtain rfl := numbered_unique mem' numbered
    have grouped : other.group = some group := grouped
    simpa [grouped, testedGroups, found''] using tested

variable (installed : s.Installed w store s.numbered e) (tags : ∀ u, store.tag? u = s.store.tag? u)
  (founded : s.Founded)
  (inOrder : s.order = (e.registry.snapshot.filter (·.isReady)).map fun c => s.nameOf c.tag)
include installed tags founded inOrder

/-- What a constraint mentions comes before it, or it is late. -/
theorem late_or_before {after before : List Constraint}
    (split : e.registry.searched = after ++ c :: before) (ready : c.isReady = true)
    (mentions : c.Mentions store u) (bound : ¬Constraint.Free e.registry.constraints u) :
    s.Follows (s.nameOf c.tag) (s.nameOf u) ∧
      (s.Late (s.nameOf c.tag) (s.nameOf u) ∨ ∃ d ∈ before, d.tag = u) := by
  obtain ⟨sorted, listed⟩ :=
    e.registry.searched_sorted installed.filed (installed.acyclic founded.acyclic)
  have inside : c ∈ e.registry.searched := split ▸ List.mem_append_right _ List.mem_cons_self
  obtain ⟨d, found, able⟩ : ∃ d, e.registry.constraints.get? u = some d ∧ d.isReady = true := by
    simpa [Constraint.Free] using bound
  have uses := installed.uses_of_mentions tags (sorted.registered inside) mentions
    (by simp [Dict.contains, found])
  have order : s.order =
      ((after ++ c :: before).reverse.filter (·.isReady)).map fun c => s.nameOf c.tag :=
    split ▸ inOrder
  have among : s.nameOf c.tag ∈ s.order := by
    rw [order]
    exact List.mem_map.2 ⟨c, List.mem_filter.2 ⟨by simp, ready⟩, rfl⟩
  refine ⟨⟨among, uses⟩, ?_⟩
  obtain rfl : d.tag = u := installed.filed u d found
  have mem : d ∈ after ++ c :: before := split ▸ listed d.tag d found
  rcases List.mem_append.1 mem with mem | mem
  · left
    refine ⟨uses, ?_⟩
    have later : [c, d].Sublist (after ++ c :: before).reverse := by
      rw [List.reverse_append, List.reverse_cons, List.append_assoc]
      refine .trans ?_ (List.sublist_append_right _ _)
      exact (List.singleton_sublist.2 (List.mem_reverse.2 mem)).cons_cons c
    have later := (later.filter (·.isReady)).map fun c => s.nameOf c.tag
    rw [← order] at later
    simpa [ready, able] using later
  · rcases List.mem_cons.1 mem with rfl | mem
    · exact absurd (.single uses) (founded _)
    · exact .inr ⟨d, mem, rfl⟩

/-- In a sweep, the set of what is settled grows by the rules without late references. -/
theorem grown_once : ∀ c ∈ e.registry.searched, s.Ordered (s.nameOf c.tag) →
    Constraint.grownBy store (Constraint.Free e.registry.constraints) e.registry.searched c.tag := by
  obtain ⟨sorted, -⟩ :=
    e.registry.searched_sorted installed.filed (installed.acyclic founded.acyclic)
  refine Constraint.Sorted.grownBy (G := fun u => s.Ordered (s.nameOf u)) sorted
    (fun _ free => free) ?_
  intro after c before split ready ordered u mentions
  refine or_iff_not_imp_left.2 fun bound => ?_
  obtain ⟨edge, late | before⟩ :=
    installed.late_or_before tags founded inOrder split ready mentions bound
  · exact absurd late (ordered _ _ .refl)
  · exact ⟨ordered.of_follows edge, before⟩

/-- In a second sweep, it grows by the rules with at most one late reference on each chain. -/
theorem grown_twice : ∀ c ∈ e.registry.searched, s.Grounded (s.nameOf c.tag) →
    Constraint.grownBy store (Constraint.grownBy store (Constraint.Free e.registry.constraints)
      e.registry.searched) e.registry.searched c.tag := by
  obtain ⟨sorted, listed⟩ :=
    e.registry.searched_sorted installed.filed (installed.acyclic founded.acyclic)
  refine Constraint.Sorted.grownBy (G := fun u => s.Grounded (s.nameOf u)) sorted
    (fun _ free => Constraint.grownBy_of_base free) ?_
  intro after c before split ready grounded u mentions
  refine or_iff_not_imp_left.2 fun outside => ?_
  have bound : ¬Constraint.Free e.registry.constraints u := fun free =>
    outside (Constraint.grownBy_of_base free)
  obtain ⟨edge, late | before⟩ :=
    installed.late_or_before tags founded inOrder split ready mentions bound
  · obtain ⟨d, found, -⟩ : ∃ d, e.registry.constraints.get? u = some d ∧ d.isReady = true := by
      simpa [Constraint.Free] using bound
    obtain rfl : d.tag = u := installed.filed u d found
    exact absurd (installed.grown_once tags founded inOrder d (listed d.tag d found)
      (grounded _ _ .refl late)) outside
  · exact ⟨grounded.of_follows edge, before⟩

end Installed

end RuleSet

end TagRules
