import TagRules.Proofs.Expr.Invariant
import TagRules.Proofs.Expr.Lockstep
import TagRules.Proofs.Tag.Store

/-!
# Compiling for the same names

Of a store, compiling sees which names are the names of tags, and it notes the identities behind
them. Where the tags of two stores have the same names, the same texts compile to the same
expressions, and what these depend on has the same names in either store
(`Compile.compile_sameNames`). Both runs go side by side.
-/

namespace TagRules

namespace TagStore

/-- The names of some tags. -/
def namesOf (s : TagStore) (ids : List TagId) : List String :=
  ids.filterMap fun id => (s.tag? id).map (·.name)

/-- The same names are names of tags, and of constrainable ones, in two stores. -/
structure SameNames (a b : TagStore) : Prop where
  filed : a.Filed
  filed' : b.Filed
  known : ∀ name, a.tagsByName name ≠ [] → b.tagsByName name ≠ []
  constrainable : ∀ name, (∃ tag ∈ a.tagsByName name, tag.constrainable = true) ↔
    ∃ tag ∈ b.tagsByName name, tag.constrainable = true

/-- The constrainable tags of a name have that name. -/
theorem mem_namesOf_tagsByName {s : TagStore} (filed : s.Filed) {name other : String} :
    other ∈ s.namesOf (((s.tagsByName name).filter (·.constrainable)).map (·.id)) ↔
      other = name ∧ ∃ tag ∈ s.tagsByName name, tag.constrainable = true := by
  simp only [namesOf, List.mem_filterMap, List.mem_map, List.mem_filter]
  constructor
  · rintro ⟨_, ⟨tag, ⟨named, constrainable⟩, rfl⟩, found⟩
    obtain ⟨⟨u, there⟩, called⟩ := mem_tagsByName.1 named
    have : s.tag? tag.id = some tag := by rw [filed u tag there, there]
    rw [this, Option.map_some, Option.some.injEq] at found
    exact ⟨found.symm.trans called, tag, named, constrainable⟩
  · rintro ⟨rfl, tag, named, constrainable⟩
    obtain ⟨⟨u, there⟩, called⟩ := mem_tagsByName.1 named
    refine ⟨tag.id, ⟨tag, ⟨named, constrainable⟩, rfl⟩, ?_⟩
    rw [filed u tag there, there, Option.map_some, called]

/-- Where tags have the same descriptors, they have the same names. -/
theorem SameNames.of_tags {a b : TagStore} (filed : a.Filed)
    (tags : ∀ u, a.tag? u = b.tag? u) : a.SameNames b := by
  have mem (name : String) (tag : Tag) : tag ∈ a.tagsByName name ↔ tag ∈ b.tagsByName name := by
    simp only [mem_tagsByName, tags]
  refine ⟨filed, fun u tag found => filed u tag ((tags u).trans found), fun name found => ?_,
    fun name => by simp only [mem]⟩
  obtain ⟨tag, there⟩ := List.exists_mem_of_ne_nil _ found
  exact List.ne_nil_of_mem ((mem name tag).1 there)

theorem namesOf_congr {a b : TagStore} (tags : ∀ u, a.tag? u = b.tag? u)
    (ids : List TagId) : a.namesOf ids = b.namesOf ids := by
  simp only [namesOf, tags]

end TagStore

namespace Compile

variable {a b : TagStore}

/-- Two drafts that differ in what they depend on, and there in identities only. -/
def Alike (a b : TagStore) (d d' : Draft) : Prop :=
  ∃ deps, d' = { d with dependsOn := deps } ∧
    ∀ name, name ∈ a.namesOf d.dependsOn ↔ name ∈ b.namesOf deps

/-- Where one step succeeds, another one succeeds with the same result and an alike draft. -/
def Mirrors (a b : TagStore) (m n : Compile α) : Prop :=
  ∀ d d' x e, Alike a b d d' → StateT.run m d = .ok (x, e) →
    ∃ e', StateT.run n d' = .ok (x, e') ∧ Alike a b e e'

/-- A step that has nothing to do with dependencies. -/
theorem Apart.mirrors {m : Compile α} (h : Apart m) : Mirrors a b m m := by
  rintro d _ x e ⟨deps, rfl, names⟩ run
  refine ⟨{ e with dependsOn := deps }, ?_, deps, rfl, ?_⟩
  · rw [h d deps, run]
    rfl
  · rwa [h.dependsOn_eq run]

theorem Mirrors.bind {m n : Compile α} {k l : α → Compile β} (first : Mirrors a b m n)
    (second : ∀ x, Mirrors a b (k x) (l x)) : Mirrors a b (m >>= k) (n >>= l) := by
  intro d d' y e alike run
  obtain ⟨x, d₁, run₁, run₂⟩ := bind_eq_ok.1 run
  obtain ⟨d₁', run₁', alike₁⟩ := first d d' x d₁ alike run₁
  obtain ⟨e', run₂', alike₂⟩ := second x d₁ d₁' y e alike₁ run₂
  exact ⟨e', bind_eq_ok.2 ⟨x, d₁', run₁', run₂'⟩, alike₂⟩

theorem mem_namesOf_noteTags {s : TagStore} {d : Draft} {ids : List TagId} {name : String} :
    name ∈ s.namesOf (noteTags d ids).dependsOn ↔
      name ∈ s.namesOf d.dependsOn ∨ name ∈ s.namesOf ids := by
  simp only [TagStore.namesOf, List.mem_filterMap, mem_noteTags, or_and_right, exists_or]

theorem testTag_mirrors (same : a.SameNames b) (name : String) :
    Mirrors a b (testTag (some a) name) (testTag (some b) name) := by
  rintro d _ ⟨⟩ e ⟨deps, rfl, names⟩ run
  obtain ⟨found, rfl⟩ := testTag_eq_ok.1 run
  refine ⟨_, testTag_eq_ok.2 ⟨same.known name found, rfl⟩, _, rfl, fun other => ?_⟩
  have noted : other ∈ b.namesOf (noteTags { d with dependsOn := deps }
      (((b.tagsByName name).filter (·.constrainable)).map (·.id))).dependsOn ↔ _ :=
    mem_namesOf_noteTags
  rw [mem_namesOf_noteTags, TagStore.mem_namesOf_tagsByName same.filed, names other,
    same.constrainable name, ← TagStore.mem_namesOf_tagsByName same.filed']
  exact noted.symm

/-- Compiling for two stores whose tags have the same names. -/
def mirroring (same : a.SameNames b) : Lockstep (some a) (some b) where
  Related := Mirrors a b
  apart := Apart.mirrors
  bind := Mirrors.bind
  testTag := testTag_mirrors same

/-- A text that compiles for one store compiles for another one whose tags have the same names, to
the same expression, which depends on tags of the same names. -/
theorem compile_sameNames (same : a.SameNames b) {text : String} {c : Compiled}
    (h : compile (some a) text = .ok c) :
    ∃ c', compile (some b) text = .ok c' ∧ c'.expr = c.expr ∧
      ∀ name, name ∈ a.namesOf c.dependsOn ↔ name ∈ b.namesOf c'.dependsOn := by
  obtain ⟨some', e, d, started, kind, rfl⟩ := run_eq_ok.1 (compile_eq_ok.1 h)
  obtain ⟨d', started', deps, rfl, names⟩ :=
    ((mirroring same).steps _).start text.toList {} {} e d ⟨[], rfl, fun _ => Iff.rfl⟩ started
  exact ⟨_, compile_eq_ok.2 (run_eq_ok.2 ⟨some', e, _, started', kind, rfl⟩), rfl, names⟩

/-- Compiling for two stores with the same descriptors. -/
def sharing (tags : ∀ u, a.tag? u = b.tag? u) : Lockstep (some a) (some b) where
  Related m n := m = n
  apart _ := rfl
  bind first second := by rw [first, funext second]
  testTag name := by
    have same : a.tagsByName name = b.tagsByName name :=
      congrArg (List.filter _) (TagStore.allTags_congr tags)
    simp only [testTag, same]

/-- Where tags have the same descriptors, compiling has the same outcome. -/
theorem compile_congr (tags : ∀ u, a.tag? u = b.tag? u) (text : String) :
    compile (some a) text = compile (some b) text := by
  have same (fuel : Nat) (text : List Char) : start (some a) fuel text = start (some b) fuel text :=
    ((sharing tags).steps fuel).start text
  simp only [compile, run, same]

end Compile

end TagRules
