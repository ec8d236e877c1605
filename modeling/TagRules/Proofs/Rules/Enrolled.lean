import Mathlib.Data.List.Nodup
import TagRules.Proofs.Rules.Declared

/-!
# Subjects with their initial tags

Subjects whose identities are distinct and that start out with declared tags are put in, each as a
member of these tags (`RuleSet.enrol_ok`).
-/

namespace TagRules

namespace RuleSet

variable {s : RuleSet} {now : Instant} {store : TagStore} {u : TagId} {rule : TagRule}

/-- A declared name leads to the tag of its rule. -/
theorem idOf?_of_tags (distinct : s.names.Nodup) (tags : ∀ u, store.tag? u = s.store.tag? u)
    (mem : (u, rule) ∈ s.numbered) : store.idOf? rule.name = some u := by
  have filed : store.Filed := fun v tag found => s.store_filed v tag ((tags v).symm.trans found)
  have there : store.tag? u = some (rule.toTag u) := (tags u).trans (store_tag?.2 ⟨rule, mem, rfl⟩)
  refine TagStore.idOf?_eq_some filed there fun v other found named => ?_
  obtain ⟨rule', mem', rfl⟩ := store_tag?.1 ((tags v).symm.trans found)
  exact id_eq_of_name distinct mem' mem named

/-- A subject joins the tags that it starts out with. -/
theorem addInitial_ok (now : Instant) (distinct : s.names.Nodup)
    (tags : ∀ u, store.tag? u = s.store.tag? u) (r : SubjectRecord) {names : List String}
    (declared : ∀ name ∈ names, name ∈ s.names) :
    ∃ store', addInitial now r names store = .ok store' ∧
      (∀ u, store'.tag? u = s.store.tag? u) ∧
      ∀ u id, store'.isTagged u id = true ↔ store.isTagged u id = true ∨
        r.id = id ∧ ∃ rule, (u, rule) ∈ s.numbered ∧ rule.name ∈ names := by
  induction names generalizing store with
  | nil => exact ⟨store, rfl, tags, fun u id => by simp⟩
  | cons name names ih =>
    obtain ⟨rule, mem, rfl⟩ := List.mem_map.1 (declared name List.mem_cons_self)
    obtain ⟨v, numbered⟩ := mem_rules.1 mem
    have there : (store.tag? v).isSome = true := by
      rw [tags v, store_tag?.2 ⟨rule, numbered, rfl⟩]
      rfl
    have same (u : TagId) : (store.add now v r.id).tag? u = s.store.tag? u :=
      (TagStore.tag?_add ..).trans (tags u)
    obtain ⟨store', ok, tags', members⟩ :=
      ih same fun other mem => declared other (List.mem_cons_of_mem _ mem)
    refine ⟨store', ?_, tags', fun u id => ?_⟩
    · rw [addInitial, idOf?_of_tags distinct tags numbered]
      exact ok
    · have first : v = u ↔ ∃ rule', (u, rule') ∈ s.numbered ∧ rule'.name = rule.name := by
        constructor
        · rintro rfl
          exact ⟨rule, numbered, rfl⟩
        · rintro ⟨rule', numbered', same⟩
          exact (id_eq_of_name distinct numbered' numbered same).symm
      rw [members, TagStore.isTagged_add now there, Bool.or_eq_true, decide_eq_true_iff, first]
      simp only [List.mem_cons, and_or_left, exists_or]
      grind

/-- Subjects were put in, with the tags that they start out with. -/
structure Enrolled (s : RuleSet) (records : List SubjectRecord) (store : TagStore)
    (subjects : Dict SubjectId Subject) : Prop where
  tags : ∀ u, store.tag? u = s.store.tag? u
  members : ∀ u id, store.isTagged u id = true ↔
    ∃ r ∈ records, r.id = id ∧ ∃ rule, (u, rule) ∈ s.numbered ∧ rule.name ∈ r.tags
  subjects : ∀ id subject, subjects.get? id = some subject ↔
    ∃ r ∈ records, r.id = id ∧ subject = { record := r }

theorem enrolled_nil (s : RuleSet) : s.Enrolled [] s.store {} where
  tags _ := rfl
  members u id := by simp [store_isTagged]
  subjects id subject := by
    constructor
    · intro found
      cases found
    · rintro ⟨r, mem, -⟩
      cases mem

/-- A subject that was put in is a member of the tags that it starts out with. -/
theorem Enrolled.isTagged_eq {records : List SubjectRecord} {subjects : Dict SubjectId Subject}
    {r : SubjectRecord} (enrolled : s.Enrolled records store subjects)
    (own : (records.map (·.id)).Nodup) (mem : r ∈ records) (numbered : (u, rule) ∈ s.numbered) :
    store.isTagged u r.id = r.tags.contains rule.name := by
  rw [Bool.eq_iff_iff, enrolled.members, List.contains_iff_mem]
  constructor
  · rintro ⟨r', mem', same, rule', numbered', named⟩
    cases List.inj_on_of_nodup_map own mem' mem same
    exact numbered_unique numbered numbered' ▸ named
  · exact fun named => ⟨r, mem, rfl, rule, numbered, named⟩

/-- Subjects of their own identities that start out with declared tags are put in. -/
theorem enrol_ok (now : Instant) (distinct : s.names.Nodup) {done records : List SubjectRecord}
    {subjects : Dict SubjectId Subject} (enrolled : s.Enrolled done store subjects)
    (own : ((done ++ records).map (·.id)).Nodup)
    (declared : ∀ r ∈ records, ∀ name ∈ r.tags, name ∈ s.names) :
    ∃ store' subjects', enrol now store subjects records = .ok (store', subjects') ∧
      s.Enrolled (done ++ records) store' subjects' := by
  induction records generalizing done store subjects with
  | nil => exact ⟨store, subjects, rfl, by rwa [List.append_nil]⟩
  | cons r records ih =>
    have new : subjects.contains r.id = false := by
      cases found : subjects.get? r.id with
      | none => simp [Dict.contains, found]
      | some subject =>
        obtain ⟨other, mem, same, -⟩ := (enrolled.subjects r.id subject).1 found
        rw [List.map_append] at own
        exact absurd same ((List.nodup_append.1 own).2.2 _ (List.mem_map_of_mem mem) _
          List.mem_cons_self)
    obtain ⟨store', added, tags, members⟩ := addInitial_ok now distinct enrolled.tags r
      (declared r List.mem_cons_self)
    have next : s.Enrolled (done ++ [r]) store' (subjects.insert r.id { record := r }) := by
      refine ⟨tags, fun u id => ?_, fun id subject => ?_⟩
      · rw [members, enrolled.members]
        simp only [List.mem_append, List.mem_singleton, or_and_right, exists_or, exists_eq_left]
      · rw [Dict.get?_insert]
        simp only [List.mem_append, List.mem_singleton, or_and_right, exists_or, exists_eq_left]
        split
        · next same =>
          subst same
          have old : ¬∃ x ∈ done, x.id = r.id ∧ subject = { record := x } := fun found => by
            simp [Dict.contains, (enrolled.subjects r.id subject).2 found] at new
          rw [or_iff_right old]
          simp [eq_comm]
        · next other =>
          rw [enrolled.subjects]
          simp [other]
    obtain ⟨final, subjects', ok, rest⟩ := ih next (by simpa using own)
      fun x mem => declared x (List.mem_cons_of_mem _ mem)
    refine ⟨final, subjects', ?_, by simpa using rest⟩
    rw [enrol, new, if_neg Bool.false_ne_true, added]
    exact ok

end RuleSet

end TagRules
