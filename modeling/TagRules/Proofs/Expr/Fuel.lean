import TagRules.Proofs.Expr.Lockstep

/-!
# More fuel

The fuel of compiling bounds how deep its steps call each other and has no other part in them: a
step that does not run out of fuel does the same with any greater amount.
-/

namespace TagRules

namespace Compile

variable {α β : Type}

/-- Where the first step does not run out of fuel, the second one does the same. -/
def Outlasted (m n : Compile α) : Prop :=
  ∀ d, StateT.run m d ≠ .error .exhausted → StateT.run n d = StateT.run m d

namespace Outlasted

theorem refl (m : Compile α) : Outlasted m m :=
  fun _ _ => rfl

theorem exhausted (m : Compile α) : Outlasted (throw .exhausted) m :=
  fun _ ends => absurd rfl ends

theorem bind {m n : Compile α} {k l : α → Compile β} (first : Outlasted m n)
    (second : ∀ a, Outlasted (k a) (l a)) : Outlasted (m >>= k) (n >>= l) := by
  intro d ends
  cases run : StateT.run m d with
  | error failure =>
    rw [bind_run_of_error run] at ends ⊢
    have same := first d (by rw [run]; rintro ⟨⟩; exact ends rfl)
    exact bind_run_of_error (same.trans run)
  | ok result =>
    obtain ⟨a, d₁⟩ := result
    rw [bind_run_of_ok run] at ends ⊢
    rw [bind_run_of_ok ((first d (by rw [run]; exact nofun)).trans run)]
    exact second a d₁ ends

end Outlasted

/-- Compiling with one store and different amounts of fuel. -/
def outlasting (tags : Option TagStore) : Lockstep tags tags where
  Related := Outlasted
  apart _ := .refl _
  bind := Outlasted.bind
  testTag _ := .refl _

/-- Every step is outlasted by itself with more fuel. -/
theorem outlasting_steps (tags : Option TagStore) {fuel fuel' : Nat} (more : fuel ≤ fuel') :
    (outlasting tags).Steps fuel fuel' := by
  induction fuel generalizing fuel' with
  | zero =>
    refine ⟨fun _ => ?_, fun _ => ?_, fun _ => ?_, fun _ => ?_, fun _ => ?_⟩ <;>
      exact Outlasted.exhausted _
  | succ fuel ih =>
    obtain ⟨fuel', rfl⟩ : ∃ k, fuel' = k + 1 := ⟨fuel' - 1, by omega⟩
    exact (ih (by omega)).next

end Compile

end TagRules
