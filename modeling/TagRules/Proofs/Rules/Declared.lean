import TagRules.Proofs.Tag.Store
import TagRules.Rules.Apply

/-!
# Declared tags

The store of a set of rules has one tag for each rule, without members. Where the names of the rules
are distinct, a tag is known by its name as well as by its identity.
-/

namespace TagRules

namespace RuleSet

variable {s : RuleSet} {id u v : TagId} {rule rule' : TagRule}

/-- The names of the declared tags. -/
def names (s : RuleSet) : List String :=
  s.rules.map (·.name)

theorem mem_numbered :
    (id, rule) ∈ s.numbered ↔ ∃ i, id.index = i + 1 ∧ s.rules[i]? = some rule := by
  simp only [numbered, List.mem_map, Prod.exists, Prod.mk.injEq,
    List.mk_mem_zipIdx_iff_le_and_getElem?_sub]
  constructor
  · rintro ⟨_, position, ⟨positive, at'⟩, rfl, rfl⟩
    exact ⟨position - 1, by simp only; omega, at'⟩
  · rintro ⟨i, index, at'⟩
    exact ⟨rule, i + 1, ⟨by omega, by simpa using at'⟩, by cases id; simp_all, rfl⟩

theorem numbered_unique (first : (id, rule) ∈ s.numbered) (second : (id, rule') ∈ s.numbered) :
    rule = rule' := by
  obtain ⟨i, index, at'⟩ := mem_numbered.1 first
  obtain ⟨j, index', at''⟩ := mem_numbered.1 second
  obtain rfl : i = j := by omega
  exact Option.some.inj (at'.symm.trans at'')

theorem mem_rules : rule ∈ s.rules ↔ ∃ id, (id, rule) ∈ s.numbered := by
  rw [List.mem_iff_getElem?]
  simp only [mem_numbered]
  constructor
  · rintro ⟨i, at'⟩
    exact ⟨⟨i + 1⟩, i, rfl, at'⟩
  · rintro ⟨_, i, -, at'⟩
    exact ⟨i, at'⟩

theorem numbered_nodup (s : RuleSet) : (s.numbered.map (·.1)).Nodup := by
  have positions : s.numbered.map (·.1) = ((s.rules.zipIdx 1).map (·.2)).map TagId.mk := by
    simp only [numbered, List.map_map]
    rfl
  rw [positions, List.zipIdx_map_snd]
  exact List.Pairwise.map TagId.mk (fun a b ne same => ne (TagId.mk.inj same)) List.nodup_range'

/-- What is declared last under an identity is found there; these identities are distinct. -/
theorem tag?_declare {rules : List (TagId × TagRule)} (distinct : (rules.map (·.1)).Nodup)
    (store : TagStore) {tag : Tag} :
    (rules.foldl (fun store (id, rule) => store.insertTag (rule.toTag id)) store).tag? u =
        some tag ↔
      (∃ rule, (u, rule) ∈ rules ∧ rule.toTag u = tag) ∨
        u ∉ rules.map (·.1) ∧ store.tag? u = some tag := by
  induction rules generalizing store with
  | nil => simp
  | cons first rules ih =>
    obtain ⟨id, rule⟩ := first
    obtain ⟨new, distinct⟩ := List.nodup_cons.1 distinct
    have old (other : TagRule) : (id, other) ∉ rules :=
      fun mem => new (List.mem_map.2 ⟨_, mem, rfl⟩)
    rw [List.foldl_cons, ih distinct, TagStore.tag?_insertTag]
    have filed : (rule.toTag id).id = id := rfl
    rw [filed]
    by_cases same : id = u
    · subst same
      simp only [List.mem_cons, Prod.mk.injEq, true_and, old, or_false, false_and, exists_false,
        new, not_false_eq_true, if_true, Option.some.injEq, List.map_cons, not_true, false_or,
        exists_eq_left]
    · simp [same, Ne.symm same]

/-- The declared tags. -/
theorem store_tag? {tag : Tag} :
    s.store.tag? u = some tag ↔ ∃ rule, (u, rule) ∈ s.numbered ∧ rule.toTag u = tag := by
  unfold store
  rw [tag?_declare s.numbered_nodup]
  exact or_iff_left fun h => nomatch h.2

theorem store_filed (s : RuleSet) : s.store.Filed := by
  intro id tag found
  obtain ⟨rule, -, rfl⟩ := store_tag?.1 found
  rfl

theorem store_isTagged (s : RuleSet) (u : TagId) (id : SubjectId) :
    s.store.isTagged u id = false :=
  List.foldlRecOn s.numbered _ (motive := fun store : TagStore => store.isTagged u id = false) rfl
    fun store none (_, _) _ => (TagStore.isTagged_insertTag store _ u id).trans none

/-- Rules of one name have one identity. -/
theorem id_eq_of_name (distinct : s.names.Nodup) (first : (u, rule) ∈ s.numbered)
    (second : (v, rule') ∈ s.numbered) (same : rule.name = rule'.name) : u = v := by
  obtain ⟨i, index, at'⟩ := mem_numbered.1 first
  obtain ⟨j, index', at''⟩ := mem_numbered.1 second
  have named : s.names[i]? = some rule.name := by simp [names, at']
  have named' : s.names[j]? = some rule.name := by simp [names, at'', same]
  obtain ⟨inside, -⟩ := List.getElem?_eq_some_iff.1 named
  obtain rfl : i = j := (List.getElem?_inj inside distinct).1 (named.trans named'.symm)
  cases u
  cases v
  simp_all

end RuleSet

end TagRules
