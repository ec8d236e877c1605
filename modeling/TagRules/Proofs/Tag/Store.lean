import TagRules.Tag.Store

/-!
# The tag store by look-ups

What each operation of the store does to descriptors and to memberships, and what it logs.
-/

namespace TagRules

namespace TagStore

variable {s t : TagStore} {now : Instant} {tag u : TagId} {id : SubjectId}

theorem isTagged_eq (s : TagStore) (tag : TagId) (id : SubjectId) :
    s.isTagged tag id = ((s.rolls.get? tag).map (·.members.contains id)).getD false := by
  unfold isTagged addedTime?
  cases s.rolls.get? tag <;> rfl

/-- Adding a subject that is not in a tag is logged, or does nothing as there is no such tag. -/
theorem add_of_not_isTagged (now : Instant) (h : s.isTagged tag id = false) :
    s.rolls.get? tag = none ∧ s.add now tag id = s ∨
      (s.add now tag id).log = .added tag id :: s.log := by
  rw [isTagged_eq] at h
  unfold add
  cases hr : s.rolls.get? tag with
  | none => exact .inl ⟨rfl, rfl⟩
  | some roll =>
    have absent : roll.members.contains id = false := by simpa [hr] using h
    exact .inr (by simp [absent])

/-- Removing a subject that is in a tag is logged. -/
theorem remove_of_isTagged (h : s.isTagged tag id = true) :
    (s.remove tag id).log = .removed tag id :: s.log := by
  rw [isTagged_eq] at h
  unfold remove
  cases hr : s.rolls.get? tag with
  | none => simp [hr] at h
  | some roll =>
    have present : roll.members.contains id = true := by simpa [hr] using h
    simp [present]

/-- Each tag is filed under its own identity. -/
def Filed (s : TagStore) : Prop :=
  ∀ id tag, s.tag? id = some tag → tag.id = id

theorem tag?_insertTag (s : TagStore) (info : Tag) (u : TagId) :
    (s.insertTag info).tag? u = if info.id = u then some info else s.tag? u := by
  simp only [insertTag, tag?, Dict.get?_insert]
  split <;> rfl

theorem Filed.insertTag (h : s.Filed) (info : Tag) : (s.insertTag info).Filed := by
  intro id tag found
  rw [tag?_insertTag] at found
  split at found
  · next same => exact Option.some.inj found ▸ same
  · exact h id tag found

theorem tag?_setDiagnostic (s : TagStore) (tag : TagId) (message : Option String) (u : TagId) :
    (s.setDiagnostic tag message).tag? u = s.tag? u := by
  simp only [tag?, rolls_setDiagnostic]

theorem Filed.setDiagnostic (h : s.Filed) (tag : TagId) (message : Option String) :
    (s.setDiagnostic tag message).Filed := fun id info found =>
  h id info ((tag?_setDiagnostic s tag message id).symm.trans found)

theorem isTagged_congr (rolls : s.rolls = t.rolls) : s.isTagged tag id = t.isTagged tag id := by
  simp only [isTagged_eq, rolls]

theorem tag?_congr (rolls : s.rolls = t.rolls) : s.tag? tag = t.tag? tag := by
  simp only [tag?, rolls]

theorem tag?_add (s : TagStore) (now : Instant) (tag : TagId) (id : SubjectId) (u : TagId) :
    (s.add now tag id).tag? u = s.tag? u := by
  unfold add
  split
  · rfl
  · next roll found =>
    split
    · rfl
    · simp only [tag?, Dict.get?_insert]
      split
      · next same => simp only [← same, found, Option.map_some]
      · rfl

theorem tag?_remove (s : TagStore) (tag : TagId) (id : SubjectId) (u : TagId) :
    (s.remove tag id).tag? u = s.tag? u := by
  unfold remove
  split
  · rfl
  · next roll found =>
    split
    · simp only [tag?, Dict.get?_insert]
      split
      · next same => simp only [← same, found, Option.map_some]
      · rfl
    · rfl

/-- An addition changes the membership of one subject in one tag. -/
theorem isTagged_add (now : Instant) (there : (s.tag? tag).isSome = true) (u : TagId)
    (other : SubjectId) :
    (s.add now tag id).isTagged u other = (decide (tag = u ∧ id = other) || s.isTagged u other) := by
  unfold add
  cases found : s.rolls.get? tag with
  | none => simp [tag?, found] at there
  | some roll =>
    simp only []
    by_cases same : tag = u
    · subst same
      split
      · next present =>
        by_cases who : id = other
        · subst who
          simp [isTagged_eq, found, present]
        · simp [who]
      · simp only [isTagged_eq, Dict.get?_insert_self, found, Option.map_some, Option.getD_some,
          Dict.contains, Dict.get?_insert, true_and]
        by_cases who : id = other
        · simp [who]
        · simp [who]
    · split
      · simp [same]
      · simp [isTagged_eq, Dict.get?_insert_of_ne _ same, same]

theorem isTagged_add_self (now : Instant) (exists' : (s.tag? tag).isSome = true) :
    (s.add now tag id).isTagged tag id = true := by
  simp [isTagged_add now exists']

/-- An addition leaves all other memberships alone. -/
theorem isTagged_add_of_not (s : TagStore) (now : Instant) {other : SubjectId}
    (apart : ¬(tag = u ∧ id = other)) :
    (s.add now tag id).isTagged u other = s.isTagged u other := by
  cases there : (s.tag? tag).isSome with
  | true => simp [isTagged_add now there, apart]
  | false =>
    unfold add
    cases found : s.rolls.get? tag with
    | none => rfl
    | some roll => simp [tag?, found] at there

theorem isTagged_add_of_ne (s : TagStore) (now : Instant) (id : SubjectId) (other : tag ≠ u) :
    (s.add now tag id).isTagged u id = s.isTagged u id :=
  isTagged_add_of_not s now fun same => other same.1

/-- A removal changes the membership of one subject in one tag. -/
theorem isTagged_remove (s : TagStore) (tag : TagId) (id : SubjectId) (u : TagId)
    (other : SubjectId) :
    (s.remove tag id).isTagged u other =
      (!decide (tag = u ∧ id = other) && s.isTagged u other) := by
  unfold remove
  cases found : s.rolls.get? tag with
  | none =>
    by_cases same : tag = u
    · subst same
      simp [isTagged_eq, found]
    · simp [same]
  | some roll =>
    simp only []
    by_cases same : tag = u
    · subst same
      split
      · simp only [isTagged_eq, Dict.get?_insert_self, found, Option.map_some, Option.getD_some,
          Dict.contains, Dict.get?_erase, true_and]
        by_cases who : id = other
        · simp [who]
        · simp [who]
      · next absent =>
        by_cases who : id = other
        · subst who
          simpa [isTagged_eq, found] using absent
        · simp [who]
    · split
      · simp [isTagged_eq, Dict.get?_insert_of_ne _ same, same]
      · simp [same]

theorem isTagged_remove_self (s : TagStore) (tag : TagId) (id : SubjectId) :
    (s.remove tag id).isTagged tag id = false := by
  simp [isTagged_remove]

/-- A removal leaves all other memberships alone. -/
theorem isTagged_remove_of_not (s : TagStore) {other : SubjectId}
    (apart : ¬(tag = u ∧ id = other)) :
    (s.remove tag id).isTagged u other = s.isTagged u other := by
  simp [isTagged_remove, apart]

theorem isTagged_remove_of_ne (s : TagStore) (id : SubjectId) (other : tag ≠ u) :
    (s.remove tag id).isTagged u id = s.isTagged u id :=
  isTagged_remove_of_not s fun same => other same.1

/-- An addition says when one subject joined one tag, unless it was a member or there is no such tag. -/
theorem addedTime?_add (s : TagStore) (now : Instant) (tag : TagId) (id : SubjectId) (u : TagId)
    (other : SubjectId) : (s.add now tag id).addedTime? u other =
      if tag = u ∧ id = other ∧ (s.tag? tag).isSome then some ((s.addedTime? tag id).getD now)
      else s.addedTime? u other := by
  unfold add
  cases found : s.rolls.get? tag with
  | none => simp [tag?, found]
  | some roll =>
    dsimp only
    by_cases this : tag = u ∧ id = other
    · obtain ⟨rfl, rfl⟩ := this
      split
      · next member =>
        obtain ⟨since, joined⟩ := Option.isSome_iff_exists.1 member
        simp [addedTime?, tag?, found, joined]
      · next absent =>
        have absent : roll.members.get? id = none := by simpa [Dict.contains] using absent
        simp [addedTime?, tag?, found, absent]
    · have apart : ¬(tag = u ∧ id = other ∧ (s.tag? tag).isSome = true) :=
        fun h => this ⟨h.1, h.2.1⟩
      rw [if_neg apart]
      split
      · rfl
      · simp only [addedTime?, Dict.get?_insert]
        split
        · next same =>
          have who : id ≠ other := fun who => this ⟨same, who⟩
          rw [← same, found, Option.bind_some, Option.bind_some, Dict.get?_insert_of_ne _ who]
        · rfl

/-- An addition is logged, unless the subject was a member or there is no such tag. -/
theorem log_add (s : TagStore) (now : Instant) (tag : TagId) (id : SubjectId) :
    (s.add now tag id).log =
      if (s.tag? tag).isSome && (s.addedTime? tag id).isNone then .added tag id :: s.log
      else s.log := by
  unfold add
  cases found : s.rolls.get? tag with
  | none => simp [tag?, found]
  | some roll =>
    dsimp only
    cases joined : roll.members.get? id with
    | none => simp [tag?, addedTime?, Dict.contains, found, joined]
    | some since => simp [tag?, addedTime?, Dict.contains, found, joined]

/-- After a removal, one subject is not in one tag. -/
theorem addedTime?_remove (s : TagStore) (tag : TagId) (id : SubjectId) (u : TagId)
    (other : SubjectId) : (s.remove tag id).addedTime? u other =
      if tag = u ∧ id = other then none else s.addedTime? u other := by
  unfold remove
  cases found : s.rolls.get? tag with
  | none =>
    dsimp only
    split
    · next this => simp [addedTime?, ← this.1, found]
    · rfl
  | some roll =>
    dsimp only
    by_cases this : tag = u ∧ id = other
    · obtain ⟨rfl, rfl⟩ := this
      simp only [and_self, if_true]
      split
      · simp [addedTime?]
      · next absent =>
        have absent : roll.members.get? id = none := by simpa [Dict.contains] using absent
        simp [addedTime?, found, absent]
    · rw [if_neg this]
      split
      · simp only [addedTime?, Dict.get?_insert]
        split
        · next same =>
          have who : id ≠ other := fun who => this ⟨same, who⟩
          rw [← same, found, Option.bind_some, Option.bind_some, Dict.get?_erase_of_ne _ who]
        · rfl
      · rfl

/-- A removal is logged if the subject was a member. -/
theorem log_remove (s : TagStore) (tag : TagId) (id : SubjectId) :
    (s.remove tag id).log =
      if (s.addedTime? tag id).isSome then .removed tag id :: s.log else s.log := by
  unfold remove
  cases found : s.rolls.get? tag with
  | none => simp [addedTime?, found]
  | some roll =>
    dsimp only
    cases joined : roll.members.get? id with
    | none => simp [addedTime?, Dict.contains, found, joined]
    | some since => simp [addedTime?, Dict.contains, found, joined]

/-- Tags and the times when subjects joined them are all there is to know about memberships. -/
theorem rolls_ext (tags : ∀ u, s.tag? u = t.tag? u)
    (joined : ∀ u id, s.addedTime? u id = t.addedTime? u id) : s.rolls = t.rolls := by
  refine Dict.ext_get? fun u => ?_
  have tag := tags u
  unfold tag? at tag
  cases left : s.rolls.get? u with
  | none =>
    rw [left] at tag
    exact (Option.map_eq_none_iff.1 tag.symm).symm
  | some roll =>
    rw [left, Option.map_some] at tag
    obtain ⟨roll', right, same⟩ := Option.map_eq_some_iff.1 tag.symm
    have members : roll.members = roll'.members := Dict.ext_get? fun id => by
      have time := joined u id
      unfold addedTime? at time
      rwa [left, right] at time
    rw [right]
    obtain ⟨info, members'⟩ := roll
    cases same
    cases members
    rfl

/-- The tags of a subject, from tags paired with whether it is a member. -/
theorem tagsOf_eq (s : TagStore) (id : SubjectId) : s.tagsOf id =
    ((s.rolls.map fun roll => (roll.tag, roll.members.contains id)).values.filter (·.2)).map
      (·.1) := by
  rw [Dict.values_map, List.filter_map, List.map_map]
  rfl

/-- Stores with the same descriptors and the same memberships of a subject give it the same tags. -/
theorem tagsOf_congr (tags : ∀ u, s.tag? u = t.tag? u)
    (joined : ∀ u, s.addedTime? u id = t.addedTime? u id) : s.tagsOf id = t.tagsOf id := by
  rw [tagsOf_eq, tagsOf_eq]
  congr 3
  refine Dict.ext_get? fun u => ?_
  have tag := tags u
  have time := joined u
  unfold tag? at tag
  unfold addedTime? at time
  rw [Dict.get?_map, Dict.get?_map]
  cases left : s.rolls.get? u with
  | none =>
    rw [left] at tag
    rw [Option.map_eq_none_iff.1 tag.symm]
  | some roll =>
    rw [left, Option.map_some] at tag
    obtain ⟨roll', right, info⟩ := Option.map_eq_some_iff.1 tag.symm
    rw [left, right, Option.bind_some, Option.bind_some] at time
    rw [right]
    simp only [Option.map_some, info, Dict.contains, time]

/-- A subject carries a tag of some kind if it is a member of some tag of that kind. -/
theorem any_tagsOf (s : TagStore) (id : SubjectId) (p : Tag → Bool) :
    (s.tagsOf id).any p = true ↔
      ∃ u tag, s.tag? u = some tag ∧ p tag = true ∧ s.isTagged u id = true := by
  simp only [tagsOf, List.any_map, List.any_filter, List.any_eq_true, Dict.mem_values, tag?,
    isTagged_eq]
  constructor
  · rintro ⟨roll, ⟨u, found⟩, h⟩
    simp only [Bool.and_eq_true, Function.comp_apply] at h
    exact ⟨u, roll.tag, by simp [found], h.2, by simp [found, h.1]⟩
  · rintro ⟨u, tag, found, kind, member⟩
    obtain ⟨roll, there, rfl⟩ := Option.map_eq_some_iff.1 found
    refine ⟨roll, ⟨u, there⟩, ?_⟩
    simp only [there, Option.map_some, Option.getD_some] at member
    simp [member, kind]

/-- A subject carries a tag of a name if it is a member of some tag of that name. -/
theorem any_name_tagsOf (s : TagStore) (id : SubjectId) (name : String) :
    (s.tagsOf id).any (·.name == name) = true ↔
      ∃ u tag, s.tag? u = some tag ∧ tag.name = name ∧ s.isTagged u id = true := by
  simp only [any_tagsOf, beq_iff_eq]

/-- Stores with the same descriptors list them alike. -/
theorem allTags_congr (tags : ∀ u, s.tag? u = t.tag? u) : s.allTags = t.allTags := by
  have same : s.rolls.map Roll.tag = t.rolls.map Roll.tag :=
    Dict.ext_get? fun u => by
      rw [Dict.get?_map, Dict.get?_map]
      exact tags u
  unfold allTags
  rw [← Dict.values_map, same, Dict.values_map]

theorem mem_allTags {tag : Tag} : tag ∈ s.allTags ↔ ∃ u, s.tag? u = some tag := by
  simp only [allTags, tag?, List.mem_map, Dict.mem_values, Option.map_eq_some_iff]
  constructor
  · rintro ⟨roll, ⟨u, found⟩, rfl⟩
    exact ⟨u, roll, found, rfl⟩
  · rintro ⟨u, roll, found, rfl⟩
    exact ⟨roll, ⟨u, found⟩, rfl⟩

theorem mem_tagsByName {name : String} {tag : Tag} :
    tag ∈ s.tagsByName name ↔ (∃ u, s.tag? u = some tag) ∧ tag.name = name := by
  simp only [tagsByName, List.mem_filter, mem_allTags, beq_iff_eq]

/-- Where no two tags have one name, a subject carries each name once. -/
theorem nodup_names_tagsOf
    (distinct : ∀ u v a b, s.tag? u = some a → s.tag? v = some b → a.name = b.name → u = v)
    (id : SubjectId) : ((s.tagsOf id).map (·.name)).Nodup := by
  have all : (s.rolls.values.map fun roll => roll.tag.name).Nodup := by
    rw [Dict.values, List.map_map]
    refine List.pairwise_map.2 (s.rolls.increasing.imp_of_mem fun {a b} mem mem' lt same => ?_)
    have there : s.tag? a.1 = some a.2.tag := by rw [tag?, Dict.mem_entries.1 mem]; rfl
    have there' : s.tag? b.1 = some b.2.tag := by rw [tag?, Dict.mem_entries.1 mem']; rfl
    exact absurd (congrArg number (distinct _ _ _ _ there there' same)) (Nat.ne_of_lt lt)
  rw [tagsOf, List.map_map]
  exact List.Nodup.sublist (List.filter_sublist.map _) all

/-- The only tag of a name is found by it. -/
theorem idOf?_eq_some (filed : s.Filed) {tag : Tag} (there : s.tag? u = some tag)
    (only : ∀ v other, s.tag? v = some other → other.name = tag.name → v = u) :
    s.idOf? tag.name = some u := by
  unfold idOf?
  cases found : s.allTags.find? (·.name == tag.name) with
  | none =>
    have := List.find?_eq_none.1 found tag (mem_allTags.2 ⟨u, there⟩)
    simp at this
  | some other =>
    obtain ⟨v, there'⟩ := mem_allTags.1 (List.mem_of_find?_eq_some found)
    have named := List.find?_some found
    rw [Option.map_some, filed v other there', only v other there' (by simpa using named)]

theorem isTagged_insertTag (s : TagStore) (info : Tag) (u : TagId) (id : SubjectId) :
    (s.insertTag info).isTagged u id = s.isTagged u id := by
  simp only [insertTag, isTagged_eq, Dict.get?_insert]
  split
  · next same =>
    subst same
    cases s.rolls.get? info.id <;> rfl
  · rfl

theorem isTagged_removeTag (s : TagStore) (tag u : TagId) (id : SubjectId) :
    (s.removeTag tag).isTagged u id = (!decide (tag = u) && s.isTagged u id) := by
  simp only [removeTag, isTagged_eq, Dict.get?_erase]
  by_cases same : tag = u <;> simp [same]

theorem isTagged_updateTag (s : TagStore) (tag : TagId) (f : Tag → Tag) (u : TagId)
    (id : SubjectId) : (s.updateTag tag f).isTagged u id = s.isTagged u id := by
  simp only [updateTag, isTagged_eq, Dict.get?_modify]
  split
  · cases s.rolls.get? u <;> rfl
  · rfl

theorem tag?_removeTag (s : TagStore) (tag u : TagId) :
    (s.removeTag tag).tag? u = if tag = u then none else s.tag? u := by
  simp only [removeTag, tag?, Dict.get?_erase]
  split <;> rfl

theorem tag?_updateTag (s : TagStore) (tag : TagId) (f : Tag → Tag) (u : TagId) :
    (s.updateTag tag f).tag? u = if tag = u then (s.tag? u).map f else s.tag? u := by
  simp only [updateTag, tag?, Dict.get?_modify]
  split
  · cases s.rolls.get? u <;> rfl
  · rfl

@[simp] theorem log_updateTag (s : TagStore) (tag : TagId) (f : Tag → Tag) :
    (s.updateTag tag f).log = s.log := rfl

end TagStore

end TagRules
