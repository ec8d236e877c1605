import TagRules.Proofs.Engine.Lifetime

/-!
# Idle and active

An engine is active exactly as long as a constraint is registered and it was not stopped. One that is
idle without having been stopped remembers no addition (`Engine.active_iff_registered`). Only calls
change constraints, and each that does checks afterwards whether one is left
(`Engine.Consistent.checkActive`). When the last constraint is gone, jobs may still wait, subjects may
be staged and requests may be held back, but they have nothing left to apply (`Job.asks_eq_nil`), so
they add nobody.
-/

namespace TagRules

variable {w : World} {r : Registry}

namespace Registry

theorem snapshot_eq_nil (empty : r.constraints.isEmpty = true) : r.snapshot = [] := by
  refine List.eq_nil_iff_forall_not_mem.2 fun c mem => ?_
  obtain ⟨tag, found⟩ := registered_of_mem_snapshot mem
  rw [Dict.isEmpty_iff.1 empty tag] at found
  cases found

theorem current?_eq_none (empty : r.constraints.isEmpty = true) (ref : ConstraintRef) :
    r.current? ref = none := by
  rw [current?, constraint?, Dict.isEmpty_iff.1 empty ref.tag]
  rfl

end Registry

/-- Without constraints, a job has nothing to ask for. -/
theorem Job.asks_eq_nil (empty : r.constraints.isEmpty = true) (w : World) (job : Job) :
    job.asks w r = [] := by
  have none := Registry.snapshot_eq_nil empty
  have gone := Registry.current?_eq_none empty
  cases job with
  | initialise => simp only [asks, Registry.asks, none, Registry.sweep]; rfl
  | applyOne id => simp only [asks, Registry.asks, none]; rfl
  | applyConstraint ref => simp only [asks, gone]
  | reapply => simp only [asks, Registry.asks, none]; rfl
  | staged batch => simp [asks, gone]
  | setProcessing enabled =>
    cases enabled with
    | false => rfl
    | true => simp [asks, Registry.revived, gone]

namespace Engine

/-- Without constraints, a job does no more than what it does before its requests, except that after the
first assignment this is done. -/
theorem work_of_isEmpty (sound : r.Sound) (running : r.stopping = false)
    (empty : r.constraints.isEmpty = true) (w : World) (job : Job) :
    ∃ initialDone, Engine.work w r job = { job.prepared r with initialDone } := by
  have served : job.serve w r = ([], job.prepared r) := by
    rw [Job.serve, Job.asks_eq_nil empty, Registry.serve]
  by_cases first : job = .initialise
  · subst first
    rw [work_initialise, served]
    exact ⟨true, rfl⟩
  · rw [work_eq_serve sound running first, served]
    exact ⟨_, rfl⟩

theorem prepared_history (forgotten : r.ledger.history = {}) (job : Job) :
    (job.prepared r).ledger.history = {} := by
  unfold Job.prepared
  split
  · rfl
  all_goals exact forgotten

/-- What holds of an engine between events: it is active as long as a constraint is registered and it was
not stopped, and if it is neither active nor stopped, it remembers no addition. -/
structure Consistent (e : Engine) : Prop where
  active : e.active = (!e.registry.constraints.isEmpty && !e.registry.stopping)
  forgotten : e.active = false → e.registry.stopping = false → e.registry.ledger.history = {}

variable {e e' : Engine}

namespace Consistent

theorem empty_of_idle (h : e.Consistent) (idle : e.active = false)
    (running : e.registry.stopping = false) : e.registry.constraints.isEmpty = true := by
  have active := h.active
  rw [idle, running] at active
  simpa using active

/-- What matters are constraints, additions, and whether the engine is active or stopped. -/
theorem of_eq (h : e.Consistent)
    (constraints : e'.registry.constraints.isEmpty = e.registry.constraints.isEmpty)
    (stopping : e'.registry.stopping = e.registry.stopping) (active : e'.active = e.active)
    (history : e'.registry.ledger.history = e.registry.ledger.history) : e'.Consistent where
  active := by rw [active, constraints, stopping, h.active]
  forgotten := by
    rw [active, stopping, history]
    exact h.forgotten

theorem of_registry (h : e.Consistent) (registry : e'.registry = e.registry)
    (active : e'.active = e.active) : e'.Consistent :=
  h.of_eq (by rw [registry]) (by rw [registry]) active (by rw [registry])

/-- However the constraints were changed, the engine is consistent once this is checked. -/
theorem checkActive (h : e.Consistent)
    (stopping : e'.registry.stopping = e.registry.stopping) (active : e'.active = e.active)
    (history : e'.registry.ledger.history = e.registry.ledger.history) :
    e'.checkActive.Consistent := by
  constructor
  · unfold Engine.checkActive
    dsimp only
    split
    · next wanted => exact wanted.symm
    · next unwanted =>
      have unwanted := (Bool.eq_false_iff.2 unwanted).symm
      split
      · exact unwanted
      · next idle => exact (Bool.eq_false_iff.2 idle).trans unwanted
  · unfold Engine.checkActive
    dsimp only
    split
    · intro active
      cases active
    · split
      · exact fun _ _ => rfl
      -- it was idle before, so nothing was remembered
      · intro idle running
        rw [history]
        exact h.forgotten (active.symm.trans idle) (stopping.symm.trans running)

theorem setConstraint (h : e.Consistent) (w : World) (tag : TagId) (text options : String)
    (enabled : Bool) : (e.setConstraint w tag text options enabled).2.Consistent := by
  have installation := e.registry.setConstraint_installation w tag text options enabled
  unfold Engine.setConstraint
  generalize e.registry.setConstraint w tag text options enabled = result at installation ⊢
  cases installation with
  | same => exact h.checkActive rfl rfl rfl
  | dropped => exact h.checkActive rfl rfl rfl
  | installed _ _ _ history =>
    dsimp only
    split <;> exact h.checkActive rfl rfl history

theorem subjectDestroyed (h : e.Consistent) (id : SubjectId) : (e.subjectDestroyed id).Consistent := by
  obtain ⟨constraints, stopping, history⟩ :
      (e.subjectDestroyed id).registry.constraints = e.registry.constraints ∧
      (e.subjectDestroyed id).registry.stopping = e.registry.stopping ∧
      (e.subjectDestroyed id).registry.ledger.history = e.registry.ledger.history :=
    foldl_forgetOutcomes (P := fun r => r.constraints = e.registry.constraints ∧
      r.stopping = e.registry.stopping ∧ r.ledger.history = e.registry.ledger.history)
      (fun _ _ kept => kept) _ _ ⟨rfl, rfl, rfl⟩
  exact h.of_eq (congrArg Dict.isEmpty constraints) stopping rfl history

/-- Whatever the job, it adds nobody while the engine is idle. -/
theorem runNext (h : e.Consistent) (sound : e.registry.Sound) (w : World) :
    (e.runNext w).Consistent := by
  unfold Engine.runNext
  split
  · exact h
  next job queue _ =>
  obtain ⟨ids, steps⟩ := work_steps w e.registry job
  obtain ⟨prepared, going, -⟩ := prepared_rest e.registry job
  have constraints := (congrArg Rulebook.constraints steps.rulebook).trans prepared
  have stopping := (congrArg Rulebook.stopping steps.rulebook).trans going
  refine ⟨?_, fun idle running => ?_⟩
  · change e.active = (!(Engine.work w e.registry job).constraints.isEmpty &&
      !(Engine.work w e.registry job).stopping)
    rw [h.active]
    exact congrArg₂ (fun (cs : Dict TagId Constraint) s => !cs.isEmpty && !s) constraints.symm
      stopping.symm
  -- an engine that is idle and runs has no constraint, so the job has nothing to apply
  · have running := stopping.symm.trans running
    obtain ⟨initialDone, same⟩ := work_of_isEmpty sound running (h.empty_of_idle idle running) w job
    change (Engine.work w e.registry job).ledger.history = {}
    rw [same]
    exact prepared_history (h.forgotten idle running) job

/-- Every event leaves the engine consistent. -/
theorem perform (h : e.Consistent) (sound : e.registry.Sound) (w : World) (event : Event) :
    (e.perform w event).Consistent := by
  cases event with
  | setConstraint tag text options enabled => exact h.setConstraint w tag text options enabled
  | removeConstraint tag => exact h.checkActive rfl rfl rfl
  | tagRemoved tag => exact h.checkActive rfl rfl rfl
  | tagMetadataChanged tag => exact h.of_eq (Dict.isEmpty_modify ..) rfl rfl rfl
  | configChanged => exact h.of_eq rfl rfl rfl rfl
  | initialise =>
    simp only [Engine.perform, Engine.initialise]
    split <;> exact h.of_registry rfl rfl
  | subjectCreated id =>
    simp only [Engine.perform, Engine.subjectCreated]
    split <;> exact h.of_registry rfl rfl
  | subjectStateChanged id =>
    simp only [Engine.perform, Engine.subjectStateChanged]
    split
    · split <;> exact h.of_registry rfl rfl
    · exact h
  | subjectDestroyed id => exact h.subjectDestroyed id
  | membershipChanged id =>
    simp only [Engine.perform, Engine.membershipChanged]
    split <;> exact h.of_registry rfl rfl
  | setProcessing enabled => exact h.of_registry rfl rfl
  | tick =>
    simp only [Engine.perform, Engine.tick]
    split <;> exact h.of_registry rfl rfl
  | stop =>
    refine ⟨(Bool.and_false _).symm, fun _ running => ?_⟩
    cases running
  | dispatch =>
    simp only [Engine.perform, Engine.dispatch]
    split <;> exact h.of_registry rfl rfl
  | work => exact h.runNext sound w
  | outside f => exact h.of_eq rfl rfl rfl rfl

theorem run (h : e.Consistent) (sound : e.registry.Sound) (history : List (World × Event)) :
    (e.run history).Consistent := by
  induction history generalizing e with
  | nil => exact h
  | cons step history ih =>
    exact ih (h.perform sound step.1 step.2) (run_sound sound [step])

end Consistent

theorem Built.consistent (built : e.Built) (idle : e.active = false)
    (forgotten : e.registry.ledger.history = {}) : e.Consistent where
  active := by
    rw [idle, built.constraints]
    rfl
  forgotten _ _ := forgotten

/-- Only a stop stops an engine. -/
theorem run_stopping_iff (built : e.Built) (history : List (World × Event)) :
    (e.run history).registry.stopping = true ↔ ∃ step ∈ history, step.2 = .stop := by
  refine ⟨fun stopping => ?_, fun stop => run_stopping history (.inr stop)⟩
  by_contra none
  have running := (built.orderly.run history fun step mem stop => none ⟨step, mem, stop⟩).running
  rw [stopping] at running
  cases running

/-- Whatever happens to an engine, in whatever order: it is active if and only if a constraint is registered
and it was not stopped. If it is idle and was not stopped, it remembers no addition, whatever jobs wait,
subjects are staged or requests are held back. -/
theorem active_iff_registered (built : e.Built) (idle : e.active = false)
    (forgotten : e.registry.ledger.history = {}) (history : List (World × Event)) :
    ((e.run history).active = true ↔
      (∃ tag c, (e.run history).registry.constraint? tag = some c) ∧
        ∀ step ∈ history, step.2 ≠ .stop) ∧
    ((e.run history).active = false → (∀ step ∈ history, step.2 ≠ .stop) →
      (e.run history).registry.ledger.history = {}) := by
  have consistent := (built.consistent idle forgotten).run built.orderly.sound history
  have stopped := run_stopping_iff built history
  have running : (∀ step ∈ history, step.2 ≠ .stop) ↔ (e.run history).registry.stopping = false := by
    rw [Bool.eq_false_iff, Ne, stopped]
    push Not
    rfl
  have registered : (∃ tag c, (e.run history).registry.constraint? tag = some c) ↔
      (e.run history).registry.constraints.isEmpty = false := by
    rw [Bool.eq_false_iff, Ne, Dict.isEmpty_iff]
    push Not
    exact exists_congr fun tag => Option.ne_none_iff_exists'.symm
  constructor
  · rw [running, registered, consistent.active, Bool.and_eq_true, Bool.not_eq_true', Bool.not_eq_true']
  · intro idle going
    exact consistent.forgotten idle (running.1 going)

/-- A subject joins a tag in the first assignment. In a pause afterwards, a request is held back, the
subject is staged, and the time of the periodic pass comes. -/
def attended : List (World × Event) :=
  [(loneSubject, .outside (·.insertTag { id := ⟨1⟩, name := "Awake" })),
    (loneSubject, .setConstraint ⟨1⟩ "!isPaused()" "" true), (loneSubject, .initialise),
    (loneSubject, .work), (loneSubject, .setProcessing false), (loneSubject, .work),
    (loneSubject, .membershipChanged ⟨7⟩), (loneSubject, .work),
    (loneSubject, .subjectStateChanged ⟨7⟩), (loneSubject, .tick)]

/-- Until the constraint is removed, the addition is remembered. Then it is forgotten, while a job still
waits, the subject is staged and a request is held back. -/
theorem attended_forgotten :
    Built {} ∧ ({} : Engine).active = false ∧ ({} : Engine).registry.ledger.history = {} ∧
    (run {} attended).active = true ∧ (run {} attended).registry.ledger.history.isEmpty = false ∧
    ∃ e : Engine, e = run {} (attended ++ [(loneSubject, .removeConstraint ⟨1⟩)]) ∧
      e.active = false ∧ e.registry.ledger.history = {} ∧ e.queue = [.reapply] ∧
      e.staged.isEmpty = false ∧ e.registry.gate.held.length = 1 := by
  have built : Built {} := ⟨rfl, rfl, rfl, rfl, rfl, rfl⟩
  have registered : ((run {} attended).registry.constraint? ⟨1⟩).isSome = true := by decide +kernel
  have going : ∀ step ∈ attended, step.2 ≠ .stop := by simp [attended]
  obtain ⟨c, found⟩ := Option.isSome_iff_exists.1 registered
  obtain ⟨active, -⟩ := active_iff_registered built rfl rfl attended
  obtain ⟨-, forgotten⟩ := active_iff_registered built rfl rfl
    (attended ++ [(loneSubject, .removeConstraint ⟨1⟩)])
  have idle : (run {} (attended ++ [(loneSubject, .removeConstraint ⟨1⟩)])).active = false := by
    decide +kernel
  refine ⟨built, rfl, rfl, active.2 ⟨⟨⟨1⟩, c, found⟩, going⟩, by decide +kernel, _, rfl, idle,
    forgotten idle ?_, by decide +kernel, by decide +kernel, by decide +kernel⟩
  simp [attended]

end Engine

end TagRules
