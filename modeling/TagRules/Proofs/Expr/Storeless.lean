import TagRules.Proofs.Expr.Lockstep
import TagRules.Proofs.Tag.Store

/-!
# Compiling with and without a store

A store of tags makes compiling refuse a test of a tag that it does not have, and makes it note the
tags that are tested. It makes no other difference (`Compile.compile_store`): up to the first test of
an unknown tag both runs are the same but for dependencies, and no step looks at these.
-/

namespace TagRules

namespace Compile

variable {α β : Type} {store : TagStore}

/-- What a run without the store and one with it may yield. -/
inductive Agreement (store : TagStore) :
    Except Failure (α × Draft) → Except Failure (α × Draft) → Prop
  | compiled (a : α) (d : Draft) (deps : List TagId) :
    Agreement store (.ok (a, d)) (.ok (a, { d with dependsOn := deps }))
  | refused (failure : Failure) : Agreement store (.error failure) (.error failure)
  /-- The run with the store has met a name of no tag, wherever the other one may end. -/
  | unknown (result) (name : String) (none : store.tagsByName name = []) :
    Agreement store result (.error (.rejected (.unknownTag name)))

/-- From drafts that differ in dependencies only, the runs of two steps agree. -/
def Agrees (store : TagStore) (m n : Compile α) : Prop :=
  ∀ d deps, Agreement store (StateT.run m d) (StateT.run n { d with dependsOn := deps })

theorem Apart.agrees {m : Compile α} (h : Apart m) : Agrees store m m := by
  intro d deps
  rw [h d deps]
  cases StateT.run m d with
  | error failure => exact .refused failure
  | ok result => exact .compiled result.1 result.2 deps

theorem Agrees.bind {m n : Compile α} {k l : α → Compile β} (first : Agrees store m n)
    (second : ∀ a, Agrees store (k a) (l a)) : Agrees store (m >>= k) (n >>= l) := by
  intro d deps
  have both := first d deps
  rw [StateT.run_bind, StateT.run_bind]
  generalize StateT.run m d = x at both ⊢
  generalize StateT.run n { d with dependsOn := deps } = y at both ⊢
  cases both with
  | compiled a d' deps' => exact second a d' deps'
  | refused failure => exact .refused failure
  | unknown _ name none => exact .unknown _ name none

/-- Testing a tag fails with its name if there is none of that name, and notes it otherwise. -/
theorem testTag_agrees (store : TagStore) (name : String) :
    Agrees store (testTag none name) (testTag (some store) name) := by
  intro d deps
  cases found : store.tagsByName name with
  | nil =>
    have refused : StateT.run (testTag (some store) name) { d with dependsOn := deps } =
        .error (.rejected (.unknownTag name)) := by
      simp only [testTag, found]
      rfl
    rw [refused]
    exact .unknown _ name found
  | cons tag rest =>
    have noted : StateT.run (testTag (some store) name) { d with dependsOn := deps } =
        .ok ((), noteTags { d with dependsOn := deps }
          (((store.tagsByName name).filter (·.constrainable)).map (·.id))) :=
      testTag_eq_ok.2 ⟨found ▸ List.cons_ne_nil tag rest, rfl⟩
    rw [noted]
    exact .compiled () d _

/-- Compiling without a store and with one. -/
def storeless (store : TagStore) : Lockstep none (some store) where
  Related := Agrees store
  apart := Apart.agrees
  bind := Agrees.bind
  testTag := testTag_agrees store

/-- A text is compiled with a store to what it is compiled to without one, but for the dependencies,
or it is refused for the same reason, or for a test of a tag of a name that no tag in the store has. So
what is refused without a store is refused with one. -/
theorem compile_store (store : TagStore) (text : String) :
    (∃ c deps, compile none text = .ok c ∧
      compile (some store) text = .ok { c with dependsOn := deps }) ∨
    (∃ e, compile none text = .error e ∧ compile (some store) text = .error e) ∨
    ∃ name, compile (some store) text = .error (.unknownTag name) ∧
      ∀ id tag, store.tag? id = some tag → tag.name ≠ name := by
  have whole := (storeless store).bind (((storeless store).steps (fuelFor text.toList)).start
    text.toList) (fun e => (storeless store).apart (.condition e)) {} []
  unfold compile run
  cases Text.blank text.toList with
  | true => exact .inr (.inl ⟨_, rfl, rfl⟩)
  | false =>
    simp only [Bool.false_eq_true, if_false]
    generalize StateT.run (do let e ← start none (fuelFor text.toList) text.toList; condition e) {} =
      x at whole ⊢
    generalize StateT.run (do let e ← start (some store) (fuelFor text.toList) text.toList; condition e)
      {} = y at whole ⊢
    cases whole with
    | compiled e d deps => exact .inl ⟨compiledOf e d, deps, rfl, rfl⟩
    | refused failure => cases failure <;> exact .inr (.inl ⟨_, rfl, rfl⟩)
    | unknown _ name none =>
      refine .inr (.inr ⟨name, rfl, fun id tag found called => ?_⟩)
      have listed := TagStore.mem_tagsByName.2 ⟨⟨id, found⟩, called⟩
      rw [none] at listed
      exact List.not_mem_nil listed

end Compile

end TagRules
