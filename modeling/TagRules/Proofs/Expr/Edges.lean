import Mathlib.Data.List.Nodup
import TagRules.Proofs.Expr.Dependencies
import TagRules.Proofs.Expr.Lockstep
import TagRules.Proofs.Tag.Store

/-!
# Dependencies decide

Compiling notes a tag once, and only if it is a constrainable tag of the store (`Noted`). It notes
all of them that `hasTag` tests, so that two states of membership in which a subject agrees on these
and on the tags that are not constrainable give an expression the same truth
(`Compile.dependsOn_decides`).
-/

namespace TagRules

namespace Compile

variable {store : TagStore} {d d' : Draft} {ids : List TagId}

/-- Identities of constrainable tags of a store, each one once. -/
structure Noted (store : TagStore) (ids : List TagId) : Prop where
  nodup : ids.Nodup
  known : ∀ id ∈ ids, ∃ tag ∈ store.allTags, tag.id = id ∧ tag.constrainable = true

theorem Noted.nil : Noted store [] :=
  ⟨List.nodup_nil, fun _ mem => absurd mem List.not_mem_nil⟩

/-- What is noted already is not noted again. -/
theorem nodup_noteTags (nodup : d.dependsOn.Nodup) (ids : List TagId) :
    (noteTags d ids).dependsOn.Nodup := by
  unfold noteTags
  show (ids.foldl _ d.dependsOn).Nodup
  generalize d.dependsOn = noted at nodup
  induction ids generalizing noted with
  | nil => exact nodup
  | cons id ids ih =>
    apply ih
    show (if noted.contains id then noted else noted ++ [id]).Nodup
    split
    · exact nodup
    · next fresh =>
      rw [List.contains_iff_mem] at fresh
      rw [← List.concat_eq_append]
      exact List.Nodup.concat fresh nodup

/-- A test of a tag notes constrainable tags of the store. -/
theorem Noted.testTag {name : String} (noted : Noted store d.dependsOn)
    (run : StateT.run (testTag (some store) name) d = .ok ((), d')) :
    Noted store d'.dependsOn := by
  obtain ⟨-, rfl⟩ := testTag_eq_ok.1 run
  refine ⟨nodup_noteTags noted.nodup _, ?_⟩
  intro id mem
  cases mem_noteTags.1 mem with
  | inl old => exact noted.known id old
  | inr new =>
    obtain ⟨tag, found, rfl⟩ := List.mem_map.1 new
    obtain ⟨named, constrainable⟩ := List.mem_filter.1 found
    exact ⟨tag, (List.mem_filter.1 named).1, rfl, constrainable⟩

/-- Steps that lead from noted dependencies to noted ones. -/
def noting (store : TagStore) : Lockstep (some store) (some store) where
  Related m _ := ∀ d a d', StateT.run m d = .ok (a, d') →
    Noted store d.dependsOn → Noted store d'.dependsOn
  apart apart d a d' run noted := by
    rw [apart.dependsOn_eq run]
    exact noted
  bind first second := by
    intro d b d' run noted
    obtain ⟨a, d₁, run₁, run₂⟩ := bind_eq_ok.1 run
    exact second a d₁ b d' run₂ (first d a d₁ run₁ noted)
  testTag name d _ d' run noted := noted.testTag run

/-- The dependencies of whatever is compiled are constrainable tags of the store, each one once. -/
theorem noted_of_compile {text : String} {c : Compiled}
    (compiled : compile (some store) text = .ok c) : Noted store c.dependsOn := by
  obtain ⟨-, e, d, started, -, rfl⟩ := run_eq_ok.1 (compile_eq_ok.1 compiled)
  exact ((noting store).steps _).start text.toList {} e d started .nil

/-- Two states of membership with the tags of a store, in which a subject agrees on the dependencies
of what was compiled and on the tags that are not constrainable. -/
structure Concur (store : TagStore) (c : Compiled) (id : SubjectId) (a b : TagStore) : Prop where
  tags : ∀ u, a.tag? u = store.tag? u
  tags' : ∀ u, b.tag? u = store.tag? u
  members : ∀ u tag, store.tag? u = some tag →
    tag.id ∈ c.dependsOn ∨ tag.constrainable = false → a.isTagged u id = b.isTagged u id

/-- Where two states concur, a subject carries the same names that an expression tests. -/
theorem Concur.any_name_eq {text : String} {c : Compiled} {id : SubjectId} {a b : TagStore}
    (concur : Concur store c id a b) (compiled : compile (some store) text = .ok c) {name : String}
    (tested : name ∈ c.expr.tagNames) :
    (a.tagsOf id).any (·.name == name) = (b.tagsOf id).any (·.name == name) := by
  -- Each tag of the name is a dependency or not constrainable.
  have member (u : TagId) (tag : Tag) (there : store.tag? u = some tag) (named : tag.name = name) :
      a.isTagged u id = b.isTagged u id := by
    apply concur.members u tag there
    cases constrainable : tag.constrainable with
    | false => exact .inr rfl
    | true =>
      left
      exact mem_dependsOn compiled tested (TagStore.mem_tagsByName.2 ⟨⟨u, there⟩, named⟩)
        constrainable
  rw [Bool.eq_iff_iff, TagStore.any_name_tagsOf, TagStore.any_name_tagsOf]
  simp only [concur.tags, concur.tags']
  constructor
  · rintro ⟨u, tag, there, named, joined⟩
    exact ⟨u, tag, there, named, member u tag there named ▸ joined⟩
  · rintro ⟨u, tag, there, named, joined⟩
    exact ⟨u, tag, there, named, (member u tag there named).symm ▸ joined⟩

/-- Compiling notes no tag twice and only constrainable ones. For an expression in which nothing but
`hasTag` asks about tags these are enough: in two states of membership that concur, it has the same
truth for the subject. -/
theorem dependsOn_decides {text : String} {c : Compiled}
    (compiled : compile (some store) text = .ok c) :
    c.dependsOn.Nodup ∧
      (∀ id ∈ c.dependsOn, ∃ tag ∈ store.allTags, tag.id = id ∧ tag.constrainable = true) ∧
      (c.expr.Plain → ∀ (w : World) (owner : TagId) (r : SubjectRecord) (s : Services)
        (reported : List String) (a b : TagStore), Concur store c r.id a b →
        ((c.expr.holds ⟨w, owner, r, a.tagsOf r.id⟩).run ⟨s.mapStore fun _ => a, reported⟩).1 =
          ((c.expr.holds ⟨w, owner, r, b.tagsOf r.id⟩).run
            ⟨s.mapStore fun _ => b, reported⟩).1) := by
  have noted := noted_of_compile compiled
  refine ⟨noted.nodup, noted.known, ?_⟩
  intro plain w owner r s reported a b concur
  rw [(c.expr.holds_reads _).result, (c.expr.holds_reads _).result]
  apply congrArg Value.truth
  apply plain.byName.reading_congr
  · exact ⟨rfl, rfl, rfl, fun _ => rfl⟩
  · exact (s.alike_mapStore w r _).symm.trans (s.alike_mapStore w r _)
  · exact fun name tested => concur.any_name_eq compiled tested

/-- Two tags of one name, of which only the first may carry a constraint, and another tag. -/
def labels : TagStore :=
  ((({} : TagStore).insertTag { id := ⟨1⟩, name := "A" }).insertTag
    { id := ⟨2⟩, name := "A", constrainable := false }).insertTag { id := ⟨3⟩, name := "B" }

/-- To join a tag that is not tested does not matter. -/
theorem labels_decide :
    ∃ c, compile (some labels) "hasTag(\"A\") && size > 10" = .ok c ∧ c.dependsOn = [⟨1⟩] ∧
      ((c.expr.holds ⟨{}, ⟨3⟩, { size := 11 }, (labels.add .epoch ⟨2⟩ ⟨0⟩).tagsOf ⟨0⟩⟩).run
          ⟨{ store := labels.add .epoch ⟨2⟩ ⟨0⟩ }, []⟩).1 =
        ((c.expr.holds ⟨{}, ⟨3⟩, { size := 11 },
            ((labels.add .epoch ⟨2⟩ ⟨0⟩).add .epoch ⟨3⟩ ⟨0⟩).tagsOf ⟨0⟩⟩).run
          ⟨{ store := (labels.add .epoch ⟨2⟩ ⟨0⟩).add .epoch ⟨3⟩ ⟨0⟩ }, []⟩).1 := by
  have noted : (compile (some labels) "hasTag(\"A\") && size > 10").toOption.map
      (fun c => (c.dependsOn, decide c.expr.Plain)) = some ([⟨1⟩], true) := by
    decide +kernel
  obtain ⟨c, compiled, told⟩ := ok_of_map noted
  obtain ⟨edges, plain⟩ := Prod.mk.inj told
  refine ⟨c, compiled, edges, ?_⟩
  apply (dependsOn_decides compiled).2.2 (of_decide_eq_true plain) {} ⟨3⟩ { size := 11 } {} []
  refine ⟨fun u => ?_, fun u => ?_, fun u tag there relevant => ?_⟩
  · rw [TagStore.tag?_add]
  · rw [TagStore.tag?_add, TagStore.tag?_add]
  · refine (TagStore.isTagged_add_of_ne _ _ _ ?_).symm
    rintro rfl
    have this : labels.tag? ⟨3⟩ = some { id := ⟨3⟩, name := "B" } := by decide +kernel
    rw [this] at there
    cases there
    rw [edges] at relevant
    exact absurd relevant (by decide)

end Compile

end TagRules
