import TagRules.Proofs.Eval.Reading

/-!
# Evaluation for other subjects

Evaluation for one subject changes caches that evaluation for another one reads. It spares what those
hold for the other subject (`Services.Spares`), and as a reading of file names gets a stamp that no
outcome has yet (`Services.Stamped`), nothing that the other evaluation sees depends on the order of
the two (`Services.Spares.alike`).
-/

namespace TagRules

namespace Services

/-- Every stamp in the caches was given out. -/
structure Stamped (s : Services) : Prop where
  fileNames : ∀ id names, s.fileNames.get? id = some names → names.stamp < s.nextStamp
  outcomes : ∀ id, ∀ m ∈ (s.outcomes.get? id).getD [], m.stamp < s.nextStamp

/-- What the caches answer for a subject is the same before and after. -/
structure Spares (w : World) (id : SubjectId) (s t : Services) : Prop where
  setting : ∀ key, (t.settings.get w.config w.ticks key).1 = (s.settings.get w.config w.ticks key).1
  fileNames : t.fileNames.get? id = s.fileNames.get? id
  outcomes : t.outcomes.get? id = s.outcomes.get? id

variable {w : World} {s t u : Services} {r : SubjectRecord} {id : SubjectId} {p : Pattern}

namespace Stamped

theorem empty (store : TagStore) : Stamped { store } :=
  ⟨fun _ _ found => (nomatch found), fun _ _ mem => (nomatch mem)⟩

/-- Only caches are stamped. -/
theorem congr (h : s.Stamped) (fileNames : t.fileNames = s.fileNames)
    (outcomes : t.outcomes = s.outcomes) (stamp : t.nextStamp = s.nextStamp) : t.Stamped where
  fileNames := by simpa only [fileNames, stamp] using h.fileNames
  outcomes := by simpa only [outcomes, stamp] using h.outcomes

theorem readFileNames (h : s.Stamped) (r : SubjectRecord) : (s.readFileNames r).2.Stamped := by
  cases known : s.fileNames.get? r.id with
  | some names => rwa [readFileNames_of_some known]
  | none =>
    rw [readFileNames_of_none known]
    refine ⟨fun id names found => ?_, fun id m mem => Nat.lt_succ_of_lt (h.outcomes id m mem)⟩
    rw [Dict.get?_insert] at found
    split at found
    · cases found
      exact Nat.lt_succ_self _
    · exact Nat.lt_succ_of_lt (h.fileNames id names found)

/-- File names that were read have a stamp that was given out. -/
theorem stamp_lt (h : s.Stamped) (r : SubjectRecord) :
    (s.readFileNames r).1.stamp < (s.readFileNames r).2.nextStamp :=
  (h.readFileNames r).fileNames r.id _ (s.get?_readFileNames r)

theorem rememberOutcome (h : s.Stamped) (id : SubjectId) {m : CachedMatch}
    (given : m.stamp < s.nextStamp) : (s.rememberOutcome id m).Stamped := by
  refine ⟨h.fileNames, fun other n mem => ?_⟩
  rcases of_mem_rememberOutcome mem with ⟨-, rfl⟩ | old
  · exact given
  · exact h.outcomes other n old

/-- File names that are read anew have no outcomes yet. -/
theorem outcome_eq (h : s.Stamped) (fresh : s.fileNames.get? r.id = none) (p : Pattern) :
    s.outcome r.id (s.readFileNames r).1 p = r.fileNames.any p.search := by
  have none : ((s.outcomes.get? r.id).getD []).find? (fun m =>
      m.pattern == p && m.stamp == s.nextStamp) = none := by
    refine List.find?_eq_none.2 fun m mem same => ?_
    have old := h.outcomes r.id m mem
    simp only [Bool.and_eq_true, beq_iff_eq] at same
    omega
  simp only [readFileNames_of_none fresh, outcome, outcome?, none]
  rfl

theorem forgetSubject (h : s.Stamped) (id : SubjectId) : (s.forgetSubject id).Stamped := by
  refine ⟨fun other names found => ?_, h.outcomes⟩
  rw [get?_forgetSubject] at found
  split at found
  · cases found
  · exact h.fileNames other names found

theorem forgetOutcomes (h : s.Stamped) (id : SubjectId) (ps : List Pattern) :
    (s.forgetOutcomes id ps).Stamped :=
  ⟨h.fileNames, fun other m mem => h.outcomes other m (of_mem_forgetOutcomes mem)⟩

end Stamped

namespace Spares

theorem refl (s : Services) : Spares w id s s :=
  ⟨fun _ => rfl, rfl, rfl⟩

theorem trans (first : Spares w id s t) (second : Spares w id t u) : Spares w id s u where
  setting key := (second.setting key).trans (first.setting key)
  fileNames := second.fileNames.trans first.fileNames
  outcomes := second.outcomes.trans first.outcomes

/-- File names of another subject are read. -/
theorem readFileNames (s : Services) (other : r.id ≠ id) :
    Spares w id s (s.readFileNames r).2 := by
  cases known : s.fileNames.get? r.id with
  | some names => rw [readFileNames_of_some known]; exact .refl s
  | none =>
    rw [readFileNames_of_none known]
    exact ⟨fun _ => rfl, Dict.get?_insert_of_ne _ other _, rfl⟩

theorem rememberOutcome (s : Services) (other : r.id ≠ id) (m : CachedMatch) :
    Spares w id s (s.rememberOutcome r.id m) :=
  ⟨fun _ => rfl, rfl, Dict.get?_insert_of_ne _ other _⟩

/-- Where the caches answer the same, evaluation sees the same of them. -/
theorem alike (spares : Spares w r.id s t) (first : s.Stamped) (second : t.Stamped) :
    (s.view w r).Alike (t.view w r) := by
  cases known : s.fileNames.get? r.id with
  | some names =>
    have still := spares.fileNames.trans known
    refine ⟨funext fun key => (spares.setting key).symm, ?_, funext fun p => ?_⟩
    · simp only [view, Services.readFileNames, known, still]
    · simp only [view, Services.readFileNames, known, still, outcome, outcome?, spares.outcomes]
  | none =>
    have still := spares.fileNames.trans known
    refine ⟨funext fun key => (spares.setting key).symm, ?_, funext fun p => ?_⟩
    · simp only [view, Services.readFileNames, known, still]
    · exact (first.outcome_eq known p).trans (second.outcome_eq still p).symm

end Spares

end Services

namespace Eval

variable {sc : Scene} {s t : Services}

theorem Step.stamped (h : Step sc s t) (stamped : s.Stamped) : t.Stamped := by
  cases h with
  | report message => exact stamped.congr rfl rfl rfl
  | names => exact stamped.readFileNames sc.subject
  | outcome p matched =>
    exact (stamped.readFileNames sc.subject).rememberOutcome _ (stamped.stamp_lt sc.subject)
  | script call => exact stamped.congr rfl rfl rfl
  | setting key => exact stamped.congr rfl rfl rfl

/-- A step of evaluation for one subject spares the others. -/
theorem Step.spares (h : Step sc s t) {id : SubjectId} (other : sc.subject.id ≠ id) :
    s.Spares sc.world id t := by
  cases h with
  | report message => exact ⟨fun _ => rfl, rfl, rfl⟩
  | names => exact .readFileNames s other
  | outcome p matched => exact (Services.Spares.readFileNames s other).trans (.rememberOutcome _ other _)
  | script call => exact ⟨fun _ => rfl, rfl, rfl⟩
  | setting key => exact ⟨s.settings.get_get _ _ key, rfl, rfl⟩

theorem Keeps.stamped (h : Keeps sc s t) (stamped : s.Stamped) : t.Stamped := by
  have steps := h.steps
  clear h
  induction steps with
  | refl => exact stamped
  | tail _ last ih => exact last.stamped ih

theorem Keeps.spares (h : Keeps sc s t) {id : SubjectId} (other : sc.subject.id ≠ id) :
    s.Spares sc.world id t := by
  have steps := h.steps
  clear h
  induction steps with
  | refl => exact .refl s
  | tail _ last ih => exact ih.trans (last.spares other)

end Eval

end TagRules
