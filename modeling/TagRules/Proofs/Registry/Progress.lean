import TagRules.Proofs.Registry.Pass
import TagRules.Proofs.Tag.Store

/-!
# Runs as sequences of changes

Whatever a registry does to its store while it decides memberships can be told as a sequence of
single changes. `Progress` lists these changes, newest first as in the log, and says of each what
was true of the services right before it. `PassState.Runs` is the same for the state of a pass.
-/

namespace TagRules

/-- From one state of the services to another by single changes of membership, newest first. Each of
them meets a condition on the services right before it; between them neither tags nor members nor
the log change. -/
inductive Progress (now : Instant) (P : Services → Change → Prop) :
    Services → List Change → Services → Prop
  | refl (s) : Progress now P s [] s
  | quiet {s t u l} (before : Progress now P s l t) (rolls : u.store.rolls = t.store.rolls)
      (log : u.store.log = t.store.log) : Progress now P s l u
  | change {s t u l c} (before : Progress now P s l t) (meets : P t c)
      (rolls : u.store.rolls = (c.apply now t.store).rolls)
      (log : u.store.log = c :: t.store.log) : Progress now P s (c :: l) u

namespace Progress

variable {now : Instant} {P Q : Services → Change → Prop} {s t u : Services} {l m : List Change}

theorem trans (first : Progress now P s l t) (second : Progress now P t m u) :
    Progress now P s (m ++ l) u := by
  induction second with
  | refl => exact first
  | quiet _ rolls log ih => exact .quiet ih rolls log
  | change _ meets rolls log ih => exact .change ih meets rolls log

/-- The changes are what the log has gained. -/
theorem log (h : Progress now P s l t) : t.store.log = l ++ s.store.log := by
  induction h with
  | refl => rfl
  | quiet _ _ log ih => rw [log, ih]
  | change _ _ _ log ih => rw [log, ih, List.cons_append]

theorem imp (weaker : ∀ s c, P s c → Q s c) (h : Progress now P s l t) : Progress now Q s l t := by
  induction h with
  | refl => exact .refl _
  | quiet _ rolls log ih => exact .quiet ih rolls log
  | change _ meets rolls log ih => exact .change ih (weaker _ _ meets) rolls log

end Progress

/-- From one state of a pass to another by changes for some subjects. -/
structure PassState.Runs (now : Instant) (P : Services → Change → Prop) (who : SubjectId → Prop)
    (s t : PassState) : Prop where
  progress : ∃ l, Progress now P s.ledger.services l t.ledger.services
  touched : ∀ id ∈ t.touched, id ∈ s.touched ∨ who id

namespace PassState.Runs

variable {now : Instant} {P : Services → Change → Prop} {who : SubjectId → Prop}
  {s t u : PassState}

@[refl] theorem refl (s : PassState) : Runs now P who s s :=
  ⟨⟨[], .refl _⟩, fun _ h => .inl h⟩

theorem trans (first : Runs now P who s t) (second : Runs now P who t u) :
    Runs now P who s u where
  progress := by
    obtain ⟨l, first⟩ := first.progress
    obtain ⟨m, second⟩ := second.progress
    exact ⟨m ++ l, first.trans second⟩
  touched id h := (second.touched id h).elim (first.touched id) .inr

/-- Several runs in turn. -/
theorem foldl {f : PassState → α → PassState} (as : List α)
    (h : ∀ a ∈ as, ∀ s, Runs now P who s (f s a)) (s : PassState) :
    Runs now P who s (as.foldl f s) := by
  induction as generalizing s with
  | nil => exact .refl s
  | cons a as ih =>
    have first := h a List.mem_cons_self s
    exact first.trans (ih (fun b hb => h b (List.mem_cons_of_mem _ hb)) _)

theorem imp {Q : Services → Change → Prop} {who' : SubjectId → Prop}
    (weaker : ∀ s c, P s c → Q s c) (more : ∀ id, who id → who' id) (h : Runs now P who s t) :
    Runs now Q who' s t where
  progress := by
    obtain ⟨l, progress⟩ := h.progress
    exact ⟨l, progress.imp weaker⟩
  touched id mem := (h.touched id mem).imp_right (more id)

/-- A run without changes. -/
theorem of_eq (rolls : t.ledger.services.store.rolls = s.ledger.services.store.rolls)
    (log : t.ledger.services.store.log = s.ledger.services.store.log)
    (touched : t.touched = s.touched) : Runs now P who s t where
  progress := ⟨[], .quiet (.refl _) rolls log⟩
  touched _ mem := .inl (touched ▸ mem)

theorem of_untouched {w : World} {r : SubjectRecord} (h : s.Untouched w r t) :
    Runs now P who s t :=
  .of_eq h.rolls h.log h.touched

end PassState.Runs

end TagRules
