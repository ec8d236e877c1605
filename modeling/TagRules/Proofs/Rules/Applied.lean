import Mathlib.Data.List.Perm.Basic
import TagRules.Proofs.Rules.Enrolled
import TagRules.Proofs.Rules.Installed

/-!
# What applying rules comes to

Applying rules sweeps over all constraints twice. The first sweep, in the order of the references,
gives each subject the tags that the equations of the rules call for, and the second one leaves them
(`RuleSet.apply_reports`). As the equations have one solution, the outcome is the same for the rules
and the subjects in any order (`RuleSet.apply_stratified`).
-/

namespace TagRules

/-- The first assignment of an engine with nothing else to do. -/
theorem Engine.flush_initialise {e : Engine}
    (waiting : e.queue = [] ∧ e.staged = {} ∧ e.initialised = false) (w : World) :
    (e.initialise.flush w).registry = (e.registry.applyToMany w true w.population).2 := by
  obtain ⟨registry, queue, staged, active, initialised⟩ := e
  obtain ⟨rfl, rfl, rfl⟩ := waiting
  rfl

namespace RuleSet

variable {s s' : RuleSet} {w : World} {store : TagStore} {subjects : Dict SubjectId Subject}
  {records : List SubjectRecord} {r : SubjectRecord} {rule : TagRule} {id u : TagId}
  {c : Constraint} {e : Engine}

/-- The tags that a subject carries in a store, by name and in order. -/
def carriedIn (store : TagStore) (r : SubjectRecord) : List String :=
  ((store.tagsOf r.id).map (·.name)).mergeSort

/-- A subject carries the declared tags that it is a member of. -/
theorem mem_carriedIn (tags : ∀ u, store.tag? u = s.store.tag? u) {name : String} :
    name ∈ carriedIn store r ↔
      ∃ u rule, (u, rule) ∈ s.numbered ∧ rule.name = name ∧ store.isTagged u r.id = true := by
  have := TagStore.any_name_tagsOf store r.id name
  simp only [List.any_eq_true, beq_iff_eq] at this
  rw [carriedIn, List.mem_mergeSort, List.mem_map, this]
  constructor
  · rintro ⟨u, tag, found, named, member⟩
    obtain ⟨rule, mem, rfl⟩ := store_tag?.1 ((tags u).symm.trans found)
    exact ⟨u, rule, mem, named, member⟩
  · rintro ⟨u, rule, mem, named, member⟩
    exact ⟨u, rule.toTag u, (tags u).trans (store_tag?.2 ⟨rule, mem, rfl⟩), named, member⟩

theorem name_mem_carriedIn (distinct : s.names.Nodup) (tags : ∀ u, store.tag? u = s.store.tag? u)
    (numbered : (u, rule) ∈ s.numbered) :
    rule.name ∈ carriedIn store r ↔ store.isTagged u r.id = true := by
  rw [mem_carriedIn tags]
  constructor
  · rintro ⟨v, rule', numbered', same, member⟩
    exact id_eq_of_name distinct numbered' numbered same ▸ member
  · exact fun member => ⟨u, rule, numbered, rfl, member⟩

/-- The truth of a constraint for a subject is that of its expression on the tags that the subject
carries. -/
theorem truth_eq_truthOn {s : Services} {condition : Expr} (text : c.expr? = some condition)
    (byName : condition.ByName) (script : w.script = none) {population : List SubjectId}
    (truthful : s.Truthful { w with subjects, population })
    (known : World.Knows { w with subjects, population } r) :
    c.truth { w with subjects, population } r s =
      condition.truthOn w r (carriedIn s.store r) := by
  rw [Constraint.truth_eq_reading text, Expr.truthOn_eq_reading, truthful.view_eq known]
  refine congrArg Value.truth (byName.reading_congr ?_ ⟨rfl, rfl, rfl⟩ fun name _ => ?_)
  · exact ⟨rfl, rfl, rfl, fun source => by simp only [Scene.answer, script]⟩
  · rw [Expr.any_name_map, Bool.eq_iff_iff]
    simp [carriedIn]

theorem carriedIn_congr {store' : TagStore} (rolls : store.rolls = store'.rolls) :
    carriedIn store r = carriedIn store' r := by
  rw [carriedIn, carriedIn, Constraint.tagsOf_congr rolls]

theorem pairwise_carriedIn (store : TagStore) (r : SubjectRecord) :
    (carriedIn store r).Pairwise (· ≤ ·) := by
  have trans (a b c : String) (first : decide (a ≤ b) = true) (second : decide (b ≤ c) = true) :
      decide (a ≤ c) = true :=
    decide_eq_true (String.le_trans (of_decide_eq_true first) (of_decide_eq_true second))
  have total (a b : String) : (decide (a ≤ b) || decide (b ≤ a)) = true := by
    simp only [Bool.or_eq_true, decide_eq_true_eq, String.le_total]
  exact (List.pairwise_mergeSort trans total _).imp of_decide_eq_true

theorem nodup_carriedIn (distinct : s.names.Nodup) (tags : ∀ u, store.tag? u = s.store.tag? u)
    (r : SubjectRecord) : (carriedIn store r).Nodup := by
  refine (List.mergeSort_perm _ _).nodup_iff.2 (TagStore.nodup_names_tagsOf ?_ r.id)
  intro u v a b found found' same
  obtain ⟨rule, mem, rfl⟩ := store_tag?.1 ((tags u).symm.trans found)
  obtain ⟨rule', mem', rfl⟩ := store_tag?.1 ((tags v).symm.trans found')
  exact id_eq_of_name distinct mem mem' same

section Assignment

variable (enrolled : s.Enrolled records store subjects) (own : (records.map (·.id)).Nodup)
  (acyclic : s.Acyclic) (byName : s.ByName)
include enrolled own acyclic byName

/-- After the first assignment, memberships are those after its first sweep, which stands for each
subject. -/
theorem Installed.exists_stands {w : World} (subjects' : w.subjects = subjects)
    (population : w.population = records.map (·.id))
    (installed : s.Installed w store s.numbered e) :
    ∃ l : Ledger, (e.initialise.flush w).registry.store.rolls = l.services.store.rolls ∧
      ∀ r ∈ records, l.Stands w r store e.registry.searched := by
  subst subjects'
  have coherent := installed.coherent enrolled.tags acyclic byName
  obtain ⟨sorted, -⟩ := e.registry.searched_sorted coherent.filed coherent.acyclic
  have filed : w.Filed := fun id subject found => by
    obtain ⟨r, -, rfl, rfl⟩ := (enrolled.subjects id subject).1 found
    rfl
  let l := e.registry.snapshot.foldl (Pass.swept w e.registry.rulebook false w.population)
    e.registry.ledger
  have stands (r : SubjectRecord) (mem : r ∈ records) : l.Stands w r store e.registry.searched := by
    refine Ledger.Stands.sweep coherent sorted installed.running filed (population ▸ own)
      (population ▸ List.mem_map_of_mem mem) ((enrolled.subjects r.id _).2 ⟨r, mem, rfl, rfl⟩) ?_
    exact ⟨fun u => TagStore.tag?_congr installed.rolls, installed.truthful,
      fun u _ => TagStore.isTagged_congr installed.rolls,
      fun u _ => by rw [installed.history]; rfl, fun _ mem => nomatch mem⟩
  -- What stands is settled, so the second sweep changes no membership.
  have rests : l.Rests w e.registry.searched := by
    refine ⟨?_, fun id subject found c mem ready => ?_⟩
    · exact Pass.foldl_swept_truthful filed _ _ _ _ installed.truthful
    · obtain ⟨r, known, rfl, rfl⟩ := (enrolled.subjects id subject).1 found
      exact Ledger.settled_of_outcome ((stands r known).outcome c mem ready)
  have again : (e.registry.snapshot.foldl (Pass.swept w e.registry.rulebook true w.population)
      l).services.store.rolls = l.services.store.rolls :=
    (rests.sweep filed true w.population fun c mem => List.mem_reverse.1 mem).1
  refine ⟨l, ?_, stands⟩
  rw [Engine.flush_initialise installed.waiting]
  exact (congrArg (·.store.rolls)
    (Registry.applyToMany_eq installed.running installed.opened w true w.population)).trans again

/-- What stands for a subject gives it the tags that the rules call for. -/
theorem Installed.stratified {population : List SubjectId} {l : Ledger}
    (installed : s.Installed { w with subjects, population } store s.numbered e)
    (distinct : s.names.Nodup) (script : w.script = none) (mem : r ∈ records)
    (stands : l.Stands { w with subjects, population } r store e.registry.searched) :
    s.Stratified w r (carriedIn l.services.store r) := by
  have coherent := installed.coherent enrolled.tags acyclic byName
  obtain ⟨sorted, listed⟩ := e.registry.searched_sorted coherent.filed coherent.acyclic
  have tags (u : TagId) := (stands.tags u).trans (enrolled.tags u)
  have known : World.Knows { w with subjects, population } r :=
    ⟨_, (enrolled.subjects r.id _).2 ⟨r, mem, rfl, rfl⟩, rfl⟩
  refine ⟨fun name carried => ?_, fun rule declared => ?_⟩
  · obtain ⟨u, rule, numbered, rfl, -⟩ := (mem_carriedIn tags).1 carried
    exact List.mem_map_of_mem (mem_rules.2 ⟨u, numbered⟩)
  · obtain ⟨u, numbered⟩ := mem_rules.1 declared
    have initially := enrolled.isTagged_eq own mem numbered
    rw [name_mem_carriedIn distinct tags numbered]
    refine Bool.eq_iff_iff.1 ?_
    unfold verdict
    cases condition : s.condition? rule with
    | none =>
      refine (stands.members u fun c met ready same => ?_).trans initially
      exact installed.condition?_of_isReady numbered (same ▸ sorted.registered met) ready condition
    | some active =>
      obtain ⟨c, found, makes, ready, text⟩ := installed.exists_constraint numbered condition
      have byName := coherent.byName u c active found text
      have outcome := stands.outcome c (listed u c found) ready
      rw [makes.tag, initially, makes.options,
        truth_eq_truthOn text byName script stands.truthful known] at outcome
      exact outcome

end Assignment

/-- The report on a subject: it has its identity and its name and lists in order the tags that the
rules call for, and no others. -/
structure Reports (s : RuleSet) (w : World) (r : SubjectRecord) (entry : SubjectTags) : Prop where
  id : entry.id = r.id
  name : entry.name = r.name
  sorted : entry.tags.Pairwise (· ≤ ·)
  nodup : entry.tags.Nodup
  meaning : s.Stratified w r entry.tags
  only : ∀ carried, s.Stratified w r carried → ∀ name, name ∈ carried ↔ name ∈ entry.tags

namespace Reports

variable {entry entry' : SubjectTags}

theorem of_stratified (distinct : s.names.Nodup) (acyclic : s.Acyclic) (byName : s.ByName)
    (tags : ∀ u, store.tag? u = s.store.tag? u)
    (meaning : s.Stratified w r (carriedIn store r)) :
    s.Reports w r ⟨r.id, r.name, carriedIn store r⟩ where
  id := rfl
  name := rfl
  sorted := pairwise_carriedIn store r
  nodup := nodup_carriedIn distinct tags r
  meaning := meaning
  only _ other := other.mem_iff acyclic byName meaning

theorem unique (first : s.Reports w r entry) (second : s.Reports w r entry') : entry = entry' := by
  have perm : entry.tags.Perm entry'.tags :=
    (List.perm_ext_iff_of_nodup first.nodup second.nodup).2 (second.only _ first.meaning)
  have tags := perm.eq_of_pairwise (fun _ _ _ _ => String.le_antisymm) first.sorted second.sorted
  obtain ⟨id, name, -⟩ := first
  obtain ⟨id', name', -⟩ := second
  cases entry
  cases entry'
  simp_all

/-- The order of the rules makes no difference to the report on a subject. -/
theorem of_rearranges (rearranges : s'.Rearranges s) (h : s'.Reports w r entry) :
    s.Reports w r entry where
  id := h.id
  name := h.name
  sorted := h.sorted
  nodup := h.nodup
  meaning := rearranges.symm.stratified h.meaning
  only carried meaning := h.only carried (rearranges.stratified meaning)

end Reports

/-- Rules without circles that ask about tags by name can be applied, and each subject in turn is
reported to carry the tags that they call for. -/
theorem apply_reports (valid : s.problem? = none) (acyclic : s.Acyclic) (byName : s.ByName)
    (own : (records.map (·.id)).Nodup) (declared : ∀ r ∈ records, ∀ name ∈ r.tags, name ∈ s.names)
    (script : w.script = none) (t : Timings) :
    ∃ report, s.apply w t records = .ok report ∧
      List.Forall₂ (s.Reports w) records report.subjects := by
  have distinct : s.names.Nodup := ((problem?_eq_none_iff s).1 valid).2
  obtain ⟨store, subjects, ok, enrolled⟩ :=
    enrol_ok w.now distinct s.enrolled_nil own declared
  have installed := s.install_installed { w with subjects, population := records.map (·.id) } t
    enrolled.tags
  obtain ⟨l, rolls, stands⟩ := installed.exists_stands enrolled own acyclic byName rfl rfl
  refine ⟨_, by rw [apply, ok]; rfl, ?_⟩
  refine List.forall₂_map_right_iff.2 (List.forall₂_same.2 fun r mem => ?_)
  have meaning := installed.stratified enrolled own acyclic byName distinct script mem (stands r mem)
  change s.Reports w r ⟨r.id, r.name, carriedIn _ r⟩
  rw [carriedIn_congr rolls]
  exact .of_stratified distinct acyclic byName
    (fun u => ((stands r mem).tags u).trans (enrolled.tags u)) meaning

/-- Applying rules without circles that ask about tags by name, at one moment and without a script
hook, gives each subject the tags that the rules call for. The order of the rules, the order of the
subjects, and what a rule says about assignments make no difference to any subject. -/
theorem apply_stratified (s : RuleSet) (w : World) (t : Timings) (records : List SubjectRecord)
    (valid : s.problem? = none) (acyclic : s.Acyclic) (byName : s.ByName)
    (own : (records.map (·.id)).Nodup) (declared : ∀ r ∈ records, ∀ name ∈ r.tags, name ∈ s.names)
    (script : w.script = none) :
    ∃ report, s.apply w t records = .ok report ∧
      List.Forall₂ (s.Reports w) records report.subjects ∧
      ∀ (s' : RuleSet) (records' : List SubjectRecord), s'.Rearranges s → records'.Perm records →
        ∃ report', s'.apply w t records' = .ok report' ∧
          report'.subjects.Perm report.subjects := by
  obtain ⟨report, ok, reports⟩ := apply_reports valid acyclic byName own declared script t
  refine ⟨report, ok, reports, fun s' records' rearranges perm => ?_⟩
  have declared' : ∀ r ∈ records', ∀ name ∈ r.tags, name ∈ s'.names := fun r mem name named =>
    rearranges.names_perm.mem_iff.2 (declared r (perm.mem_iff.1 mem) name named)
  obtain ⟨report', ok', reports'⟩ := apply_reports (rearranges.valid valid)
    (rearranges.acyclic acyclic) (rearranges.byName byName)
    ((perm.map (·.id)).nodup_iff.2 own) declared' script t
  refine ⟨report', ok', ?_⟩
  obtain ⟨entries, same, there⟩ := List.perm_comp_forall₂ perm reports
  have here : List.Forall₂ (s.Reports w) records' report'.subjects :=
    reports'.imp fun _ _ h => h.of_rearranges rearranges
  have unique : Relator.RightUnique (s.Reports w) := fun _ _ _ first second => first.unique second
  exact List.right_unique_forall₂' unique here same ▸ there

/-- A tag that stands for two others, which are declared later. -/
def largeTor : RuleSet where
  rules := [
    { name := "LargeTor", constraint := some "hasTag(\"Large\") && hasTag(\"Tor\")" },
    { name := "Large", constraint := some "sizemb >= 100" },
    { name := "Tor", constraint := some "hasNet(\"tor\")" }]

/-- Subjects of which one is large and one was taken to be. -/
def smallAndBig : List SubjectRecord := [
  { id := ⟨1⟩, name := "small", size := 1024, tags := ["Large"] },
  { id := ⟨2⟩, name := "big", size := 209715200, networks := ["Tor"] }]

theorem largeTor_stratified :
    ∃ report, largeTor.apply {} {} smallAndBig = .ok report ∧
      List.Forall₂ (largeTor.Reports {}) smallAndBig report.subjects ∧
      ∀ (s' : RuleSet) (records' : List SubjectRecord), s'.Rearranges largeTor →
        records'.Perm smallAndBig → ∃ report', s'.apply {} {} records' = .ok report' ∧
          report'.subjects.Perm report.subjects :=
  apply_stratified largeTor {} {} smallAndBig (by decide +kernel)
    (.of_rank (fun name => if name = "LargeTor" then 1 else 0) (by decide +kernel))
    (by decide +kernel) (by decide) (by decide) rfl

end RuleSet

end TagRules
