import TagRules.Proofs.Rules.Applied
import TagRules.Proofs.Rules.Order

/-!
# Reports that are stable

The report on a subject fits a rule if it lists the tag of the rule just when the condition of the
rule holds on the tags that it lists. Two sweeps make it fit every rule from which no chain of
references leads twice to a rule whose turn comes later, and another pass over all subjects does not
change these tags any more (`RuleSet.apply_stable`). With two such references on a chain the report
need not fit (`RuleSet.lateChain_unstable`).
-/

namespace TagRules

/-- The truth of an expression, in the constraint of a tag, for a subject that carries some tags. -/
def Expr.holdsWith (w : World) (owner : TagId) (r : SubjectRecord) (tags : List Tag) (e : Expr) :
    Bool :=
  ((e.holds ⟨w, owner, r, tags⟩).run { services := {} }).1

/-- Where both switches are on, a settled constraint has those members for which it holds. -/
theorem Constraint.Settled.isTagged_eq {w : World} {r : SubjectRecord} {s : Services}
    {c : Constraint} (settled : c.Settled w r s) (both : c.options = {}) :
    s.store.isTagged c.tag r.id = c.truth w r s := by
  cases truth : c.truth w r s with
  | true => exact settled.adds truth (by rw [both])
  | false => exact settled.removes truth (by rw [both])

namespace Registry

variable {w : World} {record : SubjectRecord} {store : TagStore} {K : TagId → Prop} {r : Registry}

/-- Applying all constraints keeps caches truthful. -/
theorem applyToMany_truthful (running : r.stopping = false) (opened : r.gate.isOpen = true)
    (filed : w.Filed) (truthful : r.ledger.services.Truthful w) (initial : Bool)
    (ids : List SubjectId) : (r.applyToMany w initial ids).2.ledger.services.Truthful w := by
  rw [applyToMany_eq running opened]
  exact List.foldlRecOn (if initial then [false, true] else [true]) _
    (motive := fun l : Ledger => l.services.Truthful w) truthful
    fun _ truthful check _ => Pass.foldl_swept_truthful filed _ check ids _ truthful

/-- Whatever is applied to all subjects, nothing changes in a closed set whose constraints are
settled. -/
theorem applyToMany_agree (running : r.stopping = false) (opened : r.gate.isOpen = true)
    (compatible : Constraint.Compatible r.constraints store)
    (closed : Constraint.Closed r.constraints store K)
    (firm : r.ledger.Firm w record r.constraints store K)
    (truthful : r.ledger.services.Truthful w) (known : w.Knows record) (filed : w.Filed)
    (initial : Bool) (ids : List SubjectId) :
    r.ledger.services.Agree w record K (r.applyToMany w initial ids).2.ledger.services := by
  rw [applyToMany_eq running opened]
  refine (List.foldlRecOn (if initial then [false, true] else [true]) _
    (motive := fun l : Ledger => l.services.Truthful w ∧
      r.ledger.services.Agree w record K l.services) ⟨truthful, .refl _⟩ ?_).2
  have firm : r.ledger.Firm w record r.rulebook.constraints store K := firm
  rintro l ⟨truthful, agree⟩ check -
  refine ⟨Pass.foldl_swept_truthful filed _ check ids _ truthful, agree.trans ?_⟩
  refine (firm.of_agree compatible closed agree).sweep_agree truthful compatible closed known filed
    (fun c mem => ?_) check
  obtain ⟨tag, found⟩ := registered_of_mem_snapshot mem
  exact (compatible.filed tag c found).symm ▸ found

end Registry

namespace RuleSet

variable {s : RuleSet} {w : World} {store : TagStore} {subjects : Dict SubjectId Subject}
  {records : List SubjectRecord} {r : SubjectRecord} {rule : TagRule} {u : TagId} {c : Constraint}
  {e : Engine}

/-- The declared tags of some names. -/
def tagsNamed (s : RuleSet) (names : List String) : List Tag :=
  (s.numbered.filter fun (_, rule) => names.contains rule.name).map fun (id, rule) => rule.toTag id

theorem any_tagsNamed (distinct : s.names.Nodup) (tags : ∀ u, store.tag? u = s.store.tag? u)
    (p : Tag → Bool) : (s.tagsNamed (carriedIn store r)).any p = (store.tagsOf r.id).any p := by
  rw [Bool.eq_iff_iff, TagStore.any_tagsOf]
  simp only [tagsNamed, List.any_map, List.any_filter, List.any_eq_true, Prod.exists,
    Bool.and_eq_true, List.contains_iff_mem, Function.comp_apply]
  constructor
  · rintro ⟨u, rule, mem, carried, kind⟩
    refine ⟨u, rule.toTag u, (tags u).trans (store_tag?.2 ⟨rule, mem, rfl⟩), kind, ?_⟩
    exact (name_mem_carriedIn distinct tags mem).1 carried
  · rintro ⟨u, tag, there, kind, member⟩
    obtain ⟨rule, mem, rfl⟩ := store_tag?.1 ((tags u).symm.trans there)
    exact ⟨u, rule, mem, (name_mem_carriedIn distinct tags mem).2 member, kind⟩

/-- The truth of a constraint for a subject is that of its expression on the tags that the subject
carries. -/
theorem truth_eq_holdsWith {t : Services} {condition : Expr} (text : c.expr? = some condition)
    (byTag : condition.ByTag) (distinct : s.names.Nodup)
    (tags : ∀ u, t.store.tag? u = s.store.tag? u) {population : List SubjectId}
    (truthful : t.Truthful { w with subjects, population })
    (known : World.Knows { w with subjects, population } r) :
    c.truth { w with subjects, population } r t =
      condition.holdsWith w c.tag r (s.tagsNamed (carriedIn t.store r)) := by
  rw [Constraint.truth_eq_reading text, truthful.view_eq known, Expr.holdsWith,
    (condition.holds_reads _).result]
  refine congrArg Value.truth (byTag.reading_congr ?_ ?_ (fun name _ => ?_) fun group _ => ?_)
  · exact ⟨rfl, rfl, rfl, fun _ => rfl⟩
  · exact ⟨rfl, rfl, rfl⟩
  · exact (any_tagsNamed distinct tags _).symm
  · exact (any_tagsNamed distinct tags _).symm

/-- The report on a subject fits the rules that are grounded: it lists the tag of such a rule with a
condition just when the condition holds on the tags that it lists. -/
structure Stable (s : RuleSet) (w : World) (r : SubjectRecord) (entry : SubjectTags) : Prop where
  id : entry.id = r.id
  name : entry.name = r.name
  fits : ∀ u rule e, (u, rule) ∈ s.numbered → s.condition? rule = some e → s.Grounded rule.name →
    (rule.name ∈ entry.tags ↔ e.holdsWith w u r (s.tagsNamed entry.tags) = true)

/-- Two reports on a subject list the same tags of rules without a condition and of grounded rules. -/
structure Keeps (s : RuleSet) (entry entry' : SubjectTags) : Prop where
  id : entry'.id = entry.id
  tags : ∀ rule ∈ s.rules, s.condition? rule = none ∨ s.Grounded rule.name →
    (rule.name ∈ entry'.tags ↔ rule.name ∈ entry.tags)

/-- The registry after the first assignment. -/
def assigned (s : RuleSet) (w : World) (t : Timings) (store : TagStore) : Registry :=
  ((install w s (engine store t)).initialise.flush w).registry

/-- What two sweeps over the constraints of rules bring to rest. -/
def restOf (store : TagStore) (r : Registry) : TagId → Prop :=
  Constraint.grownBy store
    (Constraint.grownBy store (Constraint.Free r.constraints) r.searched) r.searched

namespace Installed

/-- The tags of grounded rules come to rest, and so do those of rules without a condition. -/
theorem rests (installed : s.Installed w store s.numbered e)
    (tags : ∀ u, store.tag? u = s.store.tag? u) (founded : s.Founded)
    (inOrder : s.order = (e.registry.snapshot.filter (·.isReady)).map fun c => s.nameOf c.tag)
    (mem : (u, rule) ∈ s.numbered) (good : s.condition? rule = none ∨ s.Grounded rule.name) :
    restOf store e.registry u := by
  by_cases free : Constraint.Free e.registry.constraints u
  · exact Constraint.grownBy_of_base (Constraint.grownBy_of_base free)
  · obtain ⟨d, found, ready⟩ : ∃ d, e.registry.constraints.get? u = some d ∧ d.isReady = true := by
      simpa [Constraint.Free] using free
    have grounded := good.resolve_left (installed.condition?_of_isReady mem found ready)
    obtain ⟨-, listed⟩ :=
      e.registry.searched_sorted installed.filed (installed.acyclic founded.acyclic)
    obtain rfl : d.tag = u := installed.filed u d found
    exact installed.grown_twice tags founded inOrder d (listed d.tag d found)
      ((nameOf_eq mem).symm ▸ grounded)

/-- After the first assignment, what has come to rest for a subject includes grounded rules. -/
theorem firm {w : World} (enrolled : s.Enrolled records store subjects)
    (own : (records.map (·.id)).Nodup) (founded : s.Founded) (byTag : s.ByTag) (subjects' : w.subjects = subjects)
    (population : w.population = records.map (·.id))
    (installed : s.Installed w store s.numbered e) (mem : r ∈ records) :
    (e.registry.applyToMany w true w.population).2.ledger.Firm w r e.registry.constraints store
      (restOf store e.registry) := by
  subst subjects'
  have compatible : Constraint.Compatible e.registry.rulebook.constraints store :=
    installed.compatible enrolled.tags founded byTag
  obtain ⟨sorted, -⟩ := e.registry.searched_sorted compatible.filed compatible.acyclic
  have filed : w.Filed := fun id subject found => by
    obtain ⟨r, -, rfl, rfl⟩ := (enrolled.subjects id subject).1 found
    rfl
  rw [Registry.applyToMany_eq installed.running installed.opened]
  refine Ledger.Firm.sweeps compatible sorted installed.running filed
    (population ▸ own) (population ▸ List.mem_map_of_mem mem)
    ((enrolled.subjects r.id _).2 ⟨r, mem, rfl, rfl⟩) installed.truthful ?_ ?_
  · exact fun u => TagStore.tag?_congr installed.rolls
  · exact fun u => by rw [installed.history]; rfl

/-- Where the constraints of rules have come to rest, a report fits the grounded rules. -/
theorem stable {population : List SubjectId}
    (installed : s.Installed { w with subjects, population } store s.numbered e)
    (tags : ∀ u, store.tag? u = s.store.tag? u) (founded : s.Founded) (byTag : s.ByTag)
    (both : ∀ rule ∈ s.rules, rule.switches = {})
    (inOrder : s.order = (e.registry.snapshot.filter (·.isReady)).map fun c => s.nameOf c.tag)
    (distinct : s.names.Nodup) {l : Ledger}
    (firm : l.Firm { w with subjects, population } r e.registry.constraints store
      (restOf store e.registry))
    (truthful : l.services.Truthful { w with subjects, population })
    (known : World.Knows { w with subjects, population } r) :
    s.Stable w r ⟨r.id, r.name, carriedIn l.services.store r⟩ where
  id := rfl
  name := rfl
  fits u rule condition mem active grounded := by
    have tags' (u : TagId) := (firm.tags u).trans (tags u)
    obtain ⟨c, found, makes, ready, text⟩ := installed.exists_constraint mem active
    obtain rfl := makes.tag
    have settled := firm.settled c found ready
      (installed.rests tags founded inOrder mem (.inr grounded))
    have fits := settled.isTagged_eq (makes.options.trans (both rule (mem_rules.2 ⟨_, mem⟩)))
    have byTag := (installed.compatible tags founded byTag).byTag _ c condition found text
    rw [truth_eq_holdsWith text byTag distinct tags' truthful known] at fits
    rw [name_mem_carriedIn distinct tags' mem, fits]

/-- What does not change what has come to rest keeps the report on grounded rules. -/
theorem keeps (installed : s.Installed w store s.numbered e)
    (tags : ∀ u, store.tag? u = s.store.tag? u) (founded : s.Founded)
    (inOrder : s.order = (e.registry.snapshot.filter (·.isReady)).map fun c => s.nameOf c.tag)
    (distinct : s.names.Nodup) {t t' : Services} (same : ∀ u, t.store.tag? u = store.tag? u)
    (agree : t.Agree w r (restOf store e.registry) t') :
    s.Keeps ⟨r.id, r.name, carriedIn t.store r⟩ ⟨r.id, r.name, carriedIn t'.store r⟩ where
  id := rfl
  tags rule mem good := by
    obtain ⟨u, mem⟩ := mem_rules.1 mem
    have tags' (u : TagId) := (same u).trans (tags u)
    rw [name_mem_carriedIn distinct tags' mem,
      name_mem_carriedIn distinct (fun u => (agree.tags u).trans (tags' u)) mem,
      agree.members u (installed.rests tags founded inOrder mem good)]

end Installed

/-- Applying rules that do not use each other in circles and ask about tags that a subject carries,
with all switches on and at one moment, yields a report that fits all grounded rules. Another pass over
all subjects does not change the tags of these. -/
theorem apply_stable (s : RuleSet) (w : World) (t : Timings) (records : List SubjectRecord)
    (valid : s.problem? = none) (founded : s.Founded) (byTag : s.ByTag)
    (both : ∀ rule ∈ s.rules, rule.switches = {}) (own : (records.map (·.id)).Nodup)
    (declared : ∀ r ∈ records, ∀ name ∈ r.tags, name ∈ s.names) :
    ∃ store subjects, enrol w.now s.store {} records = .ok (store, subjects) ∧
      let w' : World := { w with subjects, population := records.map (·.id) }
      let assigned := s.assigned w' t store
      s.apply w t records = .ok (report assigned.store records) ∧
      List.Forall₂ (s.Stable w) records (report assigned.store records).subjects ∧
      ∀ initial, List.Forall₂ s.Keeps (report assigned.store records).subjects
        (report (assigned.applyToMany w' initial w'.population).2.store records).subjects := by
  have distinct : s.names.Nodup := ((problem?_eq_none_iff s).1 valid).2
  obtain ⟨store, subjects, ok, enrolled⟩ :=
    enrol_ok w.now distinct s.enrolled_nil own declared
  refine ⟨store, subjects, ok, ?_⟩
  intro w' assigned
  have installed := s.install_installed w' t enrolled.tags
  have inOrder := s.order_eq w' t enrolled.tags
  have compatible := installed.compatible enrolled.tags founded byTag
  obtain ⟨sorted, -⟩ := Registry.searched_sorted _ compatible.filed compatible.acyclic
  have filed : w'.Filed := fun id subject found => by
    obtain ⟨r, -, rfl, rfl⟩ := (enrolled.subjects id subject).1 found
    rfl
  have known {r : SubjectRecord} (mem : r ∈ records) : w'.Knows r :=
    ⟨_, (enrolled.subjects r.id _).2 ⟨r, mem, rfl, rfl⟩, rfl⟩
  have firm {r : SubjectRecord} (mem : r ∈ records) :=
    installed.firm enrolled own founded byTag rfl rfl mem
  have applied : s.apply w t records = .ok (report assigned.store records) := by
    rw [apply, ok]
    rfl
  have start : assigned = ((install w' s (engine store t)).registry.applyToMany w' true
      w'.population).2 := Engine.flush_initialise installed.waiting w'
  generalize install w' s (engine store t) = e at *
  have truthful := e.registry.applyToMany_truthful installed.running installed.opened filed
    installed.truthful true w'.population
  obtain ⟨l, done, same⟩ : ∃ l done, assigned =
      { e.registry with initialDone := done, ledger := l } :=
    ⟨_, _, start.trans (Registry.applyToMany_eq installed.running installed.opened ..)⟩
  rw [← start] at firm truthful
  clear_value assigned
  subst same
  refine ⟨applied, ?_, fun initial => ?_⟩
  · refine List.forall₂_map_right_iff.2 (List.forall₂_same.2 fun r mem => ?_)
    exact installed.stable enrolled.tags founded byTag both inOrder distinct (firm mem) truthful
      (known mem)
  · refine List.forall₂_map_left_iff.2 (List.forall₂_map_right_iff.2
      (List.forall₂_same.2 fun r mem => ?_))
    refine installed.keeps enrolled.tags founded inOrder distinct (firm mem).tags ?_
    refine Registry.applyToMany_agree (r := { e.registry with initialDone := done, ledger := l })
      installed.running installed.opened compatible ?_ (firm mem) truthful (known mem) filed initial _
    have registered (c : Constraint) (mem : c ∈ e.registry.searched) := sorted.registered mem
    exact ((Constraint.closed_free _ store).grownBy registered).grownBy registered

/-- A tag for a group whose tags are declared later. -/
def sized : RuleSet where
  rules := [
    { name := "Checked", constraint := some "hasTagGroup(\"size\") && !hasTag(\"Huge\")" },
    { name := "Large", group := some "size", constraint := some "sizemb >= 100" },
    { name := "Huge", group := some "size", constraint := some "hasTag(\"Large\") && sizemb >= 1000" }]

/-- The report fits all rules, since no other rule tests a group. -/
theorem sized_stable : (∀ rule ∈ sized.rules, sized.Grounded rule.name) ∧
    ∃ store subjects, enrol ({} : World).now sized.store {} smallAndBig = .ok (store, subjects) ∧
      let w' : World := { subjects, population := smallAndBig.map (·.id) }
      let assigned := sized.assigned w' {} store
      sized.apply {} {} smallAndBig = .ok (report assigned.store smallAndBig) ∧
      List.Forall₂ (sized.Stable {}) smallAndBig (report assigned.store smallAndBig).subjects ∧
      ∀ initial, List.Forall₂ sized.Keeps (report assigned.store smallAndBig).subjects
        (report (assigned.applyToMany w' initial w'.population).2.store smallAndBig).subjects := by
  refine ⟨fun rule mem => ?_, ?_⟩
  · refine .of_count (fun name => if name = "Checked" then 1 else 0) (by decide +kernel) ?_
    split <;> decide
  · exact apply_stable sized {} {} smallAndBig (by decide +kernel)
      (.of_rank (fun name => if name = "Checked" then 2 else if name = "Huge" then 1 else 0)
        (by decide +kernel))
      (by decide +kernel) (by decide +kernel) (by decide) (by decide)

/-- Two groups, each of which is declared after the rule that tests it. -/
def lateChain : RuleSet where
  rules := [
    { name := "A", constraint := some "hasTagGroup(\"second\")" },
    { name := "B", group := some "second", constraint := some "hasTagGroup(\"third\")" },
    { name := "C", group := some "third", constraint := some "true" }]

/-- A subject without tags. -/
def single : SubjectRecord :=
  { id := ⟨1⟩, name := "s" }

/-- The tag of the first rule is not reported, although its condition holds on what is. -/
theorem lateChain_unstable : lateChain.problem? = none ∧ lateChain.Founded ∧ lateChain.ByTag ∧
    (∀ rule ∈ lateChain.rules, ∀ c ∈ lateChain.compiled? rule,
      ∀ call ∈ c.expr.calls, call.1 ≠ .javascript) ∧
    (∀ rule ∈ lateChain.rules, rule.switches = {}) ∧
    ∃ report, lateChain.apply {} {} [single] = .ok report ∧
      report.subjects = [⟨⟨1⟩, "s", ["B", "C"]⟩] ∧
      ∃ u rule e, (u, rule) ∈ lateChain.numbered ∧ lateChain.condition? rule = some e ∧
        rule.name = "A" ∧ e.holdsWith {} u single (lateChain.tagsNamed ["B", "C"]) = true := by
  let w : World := {
    subjects := ({} : Dict SubjectId Subject).insert ⟨1⟩ { record := single }, population := [⟨1⟩] }
  have names : ((lateChain.assigned w {} lateChain.store).store.tagsOf single.id).map (·.name) =
      ["B", "C"] := by
    decide +kernel
  have tags : carriedIn (lateChain.assigned w {} lateChain.store).store single = ["B", "C"] := by
    unfold carriedIn
    rw [names]
    exact List.mergeSort_of_pairwise (by decide)
  have truth : ∃ entry ∈ lateChain.numbered, entry.2.name = "A" ∧
      (lateChain.condition? entry.2).any
        (·.holdsWith {} entry.1 single (lateChain.tagsNamed ["B", "C"])) = true := by
    decide +kernel
  refine ⟨by decide +kernel, ?_, by decide +kernel, by decide +kernel, by decide +kernel, _, rfl,
    ?_, ?_⟩
  · exact .of_rank (fun name => if name = "A" then 2 else if name = "B" then 1 else 0)
      (by decide +kernel)
  · change [SubjectTags.mk _ _ (carriedIn (lateChain.assigned w {} lateChain.store).store single)] = _
    rw [tags]
    rfl
  · obtain ⟨⟨u, rule⟩, mem, named, holds⟩ := truth
    obtain ⟨e, active, holds⟩ := (Option.any_eq_true _ _).1 holds
    exact ⟨u, rule, e, mem, active, named, holds⟩

end RuleSet

end TagRules
