import TagRules.Proofs.Engine.Steps

/-!
# Nothing before the first assignment, nothing after the stop

An engine as it is built changes no membership and holds no request back until the job of the first
assignment runs. Until then, what waits in front of that job only pauses processing or lifts a pause
(`Engine.Dormant`), and with no request held back, lifting a pause runs none. Once the engine was
stopped, whatever still waits, is staged or is held back touches nothing (`Engine.in_service_only`).
Ticks of the timer are left out before the first assignment: they are jobs that a constraint alone
calls for. Flushing is covered, as it is a dispatch and then the waiting jobs
(`Engine.flush_eq_run`).
-/

namespace TagRules

namespace Engine

/-- The event runs the first assignment. -/
def assigns (e : Engine) : Event → Bool
  | .work => e.queue.head? = some .initialise
  | _ => false

/-- No event of a history runs the first assignment. -/
def Unassigned (e : Engine) : List (World × Event) → Prop
  | [] => True
  | (w, event) :: history => e.assigns event = false ∧ (e.perform w event).Unassigned history

instance Unassigned.decide : (e : Engine) → (history : List (World × Event)) →
    Decidable (e.Unassigned history)
  | _, [] => .isTrue trivial
  | e, (w, event) :: history =>
    have := Unassigned.decide (e.perform w event) history
    inferInstanceAs (Decidable (e.assigns event = false ∧ (e.perform w event).Unassigned history))

/-- Memberships and their log are as they were. -/
structure Quiet (e e' : Engine) : Prop where
  rolls : e'.registry.store.rolls = e.registry.store.rolls
  log : e'.registry.store.log = e.registry.store.log

/-- The first assignment is not done, and no request is held back. Before it is asked for, the jobs that
wait are about pauses and nothing is staged; afterwards, other jobs wait behind it. -/
structure Dormant (e : Engine) : Prop where
  undone : e.registry.initialDone = false
  held : e.registry.gate.held = []
  unasked : e.initialised = false → e.staged = {} ∧ ∃ flags : List Bool,
    e.queue = flags.map .setProcessing
  asked : e.initialised = true → ∃ (flags : List Bool) (rest : List Job),
    e.queue = flags.map .setProcessing ++ .initialise :: rest

variable {e e' : Engine} {w : World} {event : Event}

theorem Leaves.quiet (h : e.Leaves e') : e.Quiet e' :=
  ⟨h.rolls, h.log⟩

/-! ### Before the first assignment -/

theorem Built.dormant (built : e.Built) (unstaged : e.staged = {}) : e.Dormant where
  undone := built.initialDone
  held := by rw [built.gate]
  unasked _ := ⟨unstaged, [], built.queue⟩
  asked initialised := nomatch built.initialised.symm.trans initialised

/-- With no request held back, a pause or its end is all that a job about pauses changes. -/
theorem work_setProcessing (w : World) {r : Registry} (held : r.gate.held = []) (enabled : Bool) :
    ∃ g, g.held = [] ∧ Engine.work w r (.setProcessing enabled) = { r with gate := g } := by
  cases enabled with
  | false => exact ⟨r.gate.pause, held, rfl⟩
  | true =>
    by_cases last : r.gate.pauses = 1
    · refine ⟨{}, rfl, ?_⟩
      simp only [work, Registry.setProcessing, Registry.resume, r.gate.resume_of_last last, held]
      rfl
    · refine ⟨{ r.gate with pauses := r.gate.pauses - 1 }, held, ?_⟩
      simp only [work, Registry.setProcessing, Registry.resume, r.gate.resume_of_not_last last]
      rfl

namespace Dormant

/-- What matters is the queue, what is staged and whether requests are held back. -/
theorem of_eq (h : e.Dormant) (undone : e'.registry.initialDone = e.registry.initialDone)
    (gate : e'.registry.gate = e.registry.gate) (queue : e'.queue = e.queue)
    (staged : e'.staged = e.staged) (initialised : e'.initialised = e.initialised) :
    e'.Dormant where
  undone := undone.trans h.undone
  held := (congrArg Gate.held gate).trans h.held
  unasked := by
    rw [initialised, queue, staged]
    exact h.unasked
  asked := by
    rw [initialised, queue]
    exact h.asked

theorem checkActive (h : e.Dormant) : e.checkActive.Dormant := by
  obtain ⟨active, l, same⟩ := checkActive_eq e
  rw [same]
  exact h.of_eq rfl rfl rfl rfl rfl

/-- Once the first assignment is asked for, any job waits behind it. -/
theorem send (h : e.Dormant) (initialised : e.initialised = true) (job : Job) :
    (e.send job).Dormant where
  undone := h.undone
  held := h.held
  unasked unasked := nomatch initialised.symm.trans unasked
  asked _ := by
    obtain ⟨flags, rest, queue⟩ := h.asked initialised
    refine ⟨flags, rest ++ [job], ?_⟩
    rw [Engine.send, queue, List.append_assoc, List.cons_append]

theorem initialise (h : e.Dormant) : e.initialise.Dormant := by
  unfold Engine.initialise
  cases initialised : e.initialised with
  | true => exact h
  | false =>
    refine ⟨h.undone, h.held, fun unasked => (nomatch unasked), fun _ => ?_⟩
    obtain ⟨-, flags, queue⟩ := h.unasked initialised
    exact ⟨flags, [], congrArg (· ++ [Job.initialise]) queue⟩

theorem setProcessing (h : e.Dormant) (enabled : Bool) : (e.setProcessing enabled).Dormant := by
  cases initialised : e.initialised with
  | true => exact h.send initialised _
  | false =>
    obtain ⟨unstaged, flags, queue⟩ := h.unasked initialised
    refine ⟨h.undone, h.held, fun _ => ⟨unstaged, flags ++ [enabled], ?_⟩,
      fun asked => nomatch initialised.symm.trans asked⟩
    rw [List.map_append, ← queue]
    rfl

theorem setConstraint (h : e.Dormant) (w : World) (tag : TagId) (text options : String)
    (enabled : Bool) : (e.setConstraint w tag text options enabled).2.Dormant := by
  have installation := e.registry.setConstraint_installation w tag text options enabled
  unfold Engine.setConstraint
  generalize e.registry.setConstraint w tag text options enabled = result at installation ⊢
  cases installation with
  | same => exact h.checkActive
  | dropped => exact checkActive (h.of_eq rfl rfl rfl rfl rfl)
  | @installed c l =>
    dsimp only
    have installed : Dormant { e with registry := { e.registry with
        constraints := e.registry.constraints.insert tag c
        nextSerial := e.registry.nextSerial + 1
        ledger := l } } := h.of_eq rfl rfl rfl rfl rfl
    split
    · next initialised => exact (installed.send initialised _).checkActive
    · exact installed.checkActive

theorem subjectStateChanged (h : e.Dormant) (id : SubjectId) : (e.subjectStateChanged id).Dormant := by
  unfold Engine.subjectStateChanged
  split
  · next accepts =>
    dsimp only
    split
    · exact h
    · simp only [acceptsEvents, Bool.and_eq_true] at accepts
      refine ⟨h.undone, h.held, fun unasked => ?_, h.asked⟩
      rw [accepts.1.1] at unasked
      cases unasked
  · exact h

theorem subjectDestroyed (h : e.Dormant) (id : SubjectId) : (e.subjectDestroyed id).Dormant := by
  have calls := subjectDestroyed_calls e id
  refine ⟨calls.initialDone.trans h.undone, (congrArg Gate.held calls.gate).trans h.held,
    fun unasked => ?_, h.asked⟩
  obtain ⟨unstaged, queue⟩ := h.unasked unasked
  refine ⟨?_, queue⟩
  change e.staged.erase id = {}
  rw [unstaged]
  exact Dict.erase_of_get?_eq_none (Dict.get?_empty id)

theorem dispatch (h : e.Dormant) : e.dispatch.Dormant := by
  unfold Engine.dispatch
  split
  · exact h
  · next some =>
    rcases Bool.eq_false_or_eq_true e.initialised with initialised | initialised
    · have emptied : Dormant { e with staged := {} } :=
        ⟨h.undone, h.held, fun unasked => (nomatch initialised.symm.trans unasked), h.asked⟩
      exact emptied.send initialised _
    · rw [(h.unasked initialised).1] at some
      exact absurd rfl some

/-- The first job that waits is about pauses, unless it is the first assignment. -/
theorem head (h : e.Dormant) (unassigned : e.assigns .work = false) {job : Job} {rest : List Job}
    (queued : e.queue = job :: rest) : ∃ enabled, job = .setProcessing enabled ∧
      Dormant { e with queue := rest } := by
  cases initialised : e.initialised with
  | false =>
    obtain ⟨unstaged, flags, queue⟩ := h.unasked initialised
    rw [queued] at queue
    obtain ⟨enabled, flags, rfl, rfl, rfl⟩ := List.map_eq_cons_iff.1 queue.symm
    exact ⟨enabled, rfl, h.undone, h.held, fun _ => ⟨unstaged, flags, rfl⟩,
      fun asked => (nomatch asked)⟩
  | true =>
    obtain ⟨flags, later, queue⟩ := h.asked initialised
    rw [queued] at queue
    cases flags with
    | nil =>
      cases queue
      simp [assigns, queued] at unassigned
    | cons enabled flags =>
      cases queue
      exact ⟨enabled, rfl, h.undone, h.held, fun unasked => (nomatch unasked),
        fun _ => ⟨flags, later, rfl⟩⟩

/-- Running a job other than the first assignment changes no membership. -/
theorem runNext (h : e.Dormant) (w : World) (unassigned : e.assigns .work = false) :
    (e.runNext w).Dormant ∧ e.Quiet (e.runNext w) := by
  unfold Engine.runNext
  split
  · exact ⟨h, rfl, rfl⟩
  · next job rest queued =>
    obtain ⟨enabled, rfl, later⟩ := h.head unassigned queued
    obtain ⟨g, held, same⟩ := work_setProcessing w h.held enabled
    rw [same]
    exact ⟨⟨later.undone, held, later.unasked, later.asked⟩, rfl, rfl⟩

/-- Before the first assignment, every event leaves the engine dormant. -/
theorem perform (h : e.Dormant) (w : World) (untimed : event ≠ .tick)
    (unassigned : e.assigns event = false) : (e.perform w event).Dormant := by
  cases event with
  | setConstraint tag text options enabled => exact h.setConstraint w tag text options enabled
  | removeConstraint tag => exact checkActive (h.of_eq rfl rfl rfl rfl rfl)
  | tagRemoved tag => exact checkActive (h.of_eq rfl rfl rfl rfl rfl)
  | tagMetadataChanged tag => exact h.of_eq rfl rfl rfl rfl rfl
  | configChanged => exact h.of_eq rfl rfl rfl rfl rfl
  | initialise => exact h.initialise
  | subjectCreated id =>
    simp only [Engine.perform, subjectCreated]
    split
    · next accepts =>
      simp only [acceptsEvents, Bool.and_eq_true] at accepts
      exact h.send accepts.1.1 _
    · exact h
  | subjectStateChanged id => exact h.subjectStateChanged id
  | subjectDestroyed id => exact h.subjectDestroyed id
  | membershipChanged id =>
    simp only [Engine.perform, membershipChanged, h.undone, Bool.false_and, Bool.false_eq_true,
      if_false]
    exact h
  | setProcessing enabled => exact h.setProcessing enabled
  | tick => contradiction
  | stop => exact h.of_eq rfl rfl rfl rfl rfl
  | dispatch => exact h.dispatch
  | work => exact (h.runNext w unassigned).1
  | outside f => exact h.of_eq rfl rfl rfl rfl rfl

/-- Before the first assignment, no event changes a membership. -/
theorem quiet (h : e.Dormant) (w : World) (unassigned : e.assigns event = false)
    (inside : event.isOutside = false) : e.Quiet (e.perform w event) := by
  by_cases work : event = .work
  · subst work
    exact (h.runNext w unassigned).2
  · exact (perform_leaves e w work inside).quiet

/-- As long as the first assignment is not run, an engine stays dormant. -/
theorem run (h : e.Dormant) (history : List (World × Event))
    (untimed : ∀ step ∈ history, step.2 ≠ .tick) (unassigned : e.Unassigned history) :
    (e.run history).Dormant := by
  induction history generalizing e with
  | nil => exact h
  | cons step history ih =>
    obtain ⟨untimed, later⟩ := List.forall_mem_cons.1 untimed
    exact ih (h.perform step.1 untimed unassigned.1) later unassigned.2

end Dormant

theorem unassigned_append {history more : List (World × Event)} :
    e.Unassigned (history ++ more) ↔ e.Unassigned history ∧ (e.run history).Unassigned more := by
  induction history generalizing e with
  | nil => exact (iff_of_eq (true_and _)).symm
  | cons step history ih => exact (and_congr_right fun _ => ih).trans and_assoc.symm

/-! ### After the stop -/

/-- Nothing takes back that an engine was stopped. -/
theorem perform_stopping (w : World) (event : Event) (stopping : e.registry.stopping = true) :
    (e.perform w event).registry.stopping = true := by
  by_cases work : event = .work
  · subst work
    simp only [perform, runNext]
    split
    · exact stopping
    · next job queue _ =>
      obtain ⟨ids, steps⟩ := work_steps w e.registry job
      obtain ⟨-, prepared, -⟩ := prepared_rest e.registry job
      exact (congrArg Rulebook.stopping steps.rulebook).trans (prepared.trans stopping)
  · by_cases stop : event = .stop
    · subst stop
      rfl
    · exact (perform_calls e w stop work).stopping.trans stopping

/-- Once an engine was stopped, no event changes a membership. -/
theorem quiet_of_stopping (w : World) (stopping : e.registry.stopping = true)
    (inside : event.isOutside = false) : e.Quiet (e.perform w event) := by
  by_cases work : event = .work
  · subst work
    simp only [perform, runNext]
    split
    · exact ⟨rfl, rfl⟩
    · next job queue _ =>
      obtain ⟨ids, steps⟩ := work_steps w e.registry job
      obtain ⟨-, prepared, -⟩ := prepared_rest e.registry job
      have store : (job.prepared e.registry).store = e.registry.store :=
        congrArg Services.store (prepared_services ..)
      obtain ⟨rolls, log, -⟩ := steps.untouched (steps.eq_nil_of_stopping (prepared.trans stopping))
      exact ⟨rolls.trans (congrArg _ store), log.trans (congrArg _ store)⟩
  · exact (perform_leaves e w work inside).quiet

theorem run_stopping (history : List (World × Event))
    (stopped : e.registry.stopping = true ∨ ∃ step ∈ history, step.2 = .stop) :
    (e.run history).registry.stopping = true := by
  induction history generalizing e with
  | nil => exact stopped.resolve_right fun ⟨_, mem, _⟩ => nomatch mem
  | cons step history ih =>
    obtain ⟨w, event⟩ := step
    refine ih ?_
    rcases stopped with stopping | ⟨step, mem, stop⟩
    · exact .inl (perform_stopping w event stopping)
    · rcases List.mem_cons.1 mem with rfl | mem
      · cases stop
        exact .inl rfl
      · exact .inr ⟨step, mem, stop⟩

/-- An engine as it is built changes no membership before the job of the first assignment runs, and
holds no request back until then. After it was stopped, it changes no membership ever again. -/
theorem in_service_only (built : e.Built) (unstaged : e.staged = {}) :
    (∀ (before : List (World × Event)) (w : World) (event : Event),
      (∀ step ∈ before ++ [(w, event)], step.2 ≠ .tick) → e.Unassigned (before ++ [(w, event)]) →
      (event.isOutside = false → (e.run before).Quiet ((e.run before).perform w event)) ∧
        ((e.run before).perform w event).registry.gate.held = []) ∧
    ∀ (before : List (World × Event)) (w : World) (event : Event),
      (∃ step ∈ before, step.2 = .stop) → event.isOutside = false →
      (e.run before).Quiet ((e.run before).perform w event) := by
  refine ⟨fun before w event untimed unassigned => ?_, fun before w event stopped inside => ?_⟩
  · obtain ⟨unassigned, now, -⟩ := unassigned_append.1 unassigned
    obtain ⟨untimed, untimed'⟩ := List.forall_mem_append.1 untimed
    have dormant := (built.dormant unstaged).run before untimed unassigned
    exact ⟨dormant.quiet w now,
      (dormant.perform w (untimed' _ (List.mem_singleton_self _)) now).held⟩
  · exact quiet_of_stopping w (run_stopping before (.inr stopped)) inside

/-- In a pause, a constraint is made and the first assignment is asked for, and a subject comes into
being. -/
def awaiting : List (World × Event) :=
  (loneSubject, .setProcessing false) :: firstAssignment ++ [(loneSubject, .subjectCreated ⟨7⟩)]

/-- The pause begins without a change. Where the engine was stopped, the first assignment, which would
add the subject, adds none. -/
theorem awaiting_quiet :
    Built {} ∧ ({} : Engine).staged = {} ∧
    (∀ step ∈ awaiting ++ [(loneSubject, .work)], step.2 ≠ .tick) ∧
    Unassigned {} (awaiting ++ [(loneSubject, .work)]) ∧
    (run {} awaiting).Quiet ((run {} awaiting).perform loneSubject .work) ∧
    ((run {} awaiting).perform loneSubject .work).registry.gate.held = [] ∧
    (run {} (firstAssignment ++ [(loneSubject, .stop)])).queue = [.initialise] ∧
    (run {} (firstAssignment ++ [(loneSubject, .stop)])).Quiet
      ((run {} (firstAssignment ++ [(loneSubject, .stop)])).perform loneSubject .work) := by
  have built : Built {} := ⟨rfl, rfl, rfl, rfl, rfl, rfl⟩
  obtain ⟨first, last⟩ := in_service_only built rfl
  have untimed : ∀ step ∈ awaiting ++ [(loneSubject, .work)], step.2 ≠ .tick := by
    simp [awaiting, firstAssignment]
  have unassigned : Unassigned {} (awaiting ++ [(loneSubject, .work)]) := by decide +kernel
  obtain ⟨quiet, held⟩ := first awaiting loneSubject .work untimed unassigned
  exact ⟨built, rfl, untimed, unassigned, quiet rfl, held, by decide +kernel,
    last _ loneSubject .work ⟨_, List.mem_append_right _ (List.mem_singleton_self _), rfl⟩ rfl⟩

end Engine

end TagRules
