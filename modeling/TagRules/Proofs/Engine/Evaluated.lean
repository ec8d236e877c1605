import TagRules.Proofs.Engine.Justified
import TagRules.Proofs.Registry.Evaluations

/-!
# No accepted event is lost

An event about a subject calls for the evaluation of all constraints for it, or of all that depend on
the run state. At any moment, each constraint that is registered was evaluated since, or the engine
still owes it (`Engine.Owes`): a job is waiting, the subject is staged, or a request is held back.
Each event hands this on (`Engine.Covered.perform`). When nothing waits, nothing is staged and nothing
is held back, all was evaluated (`Engine.accepted_evaluated`).
-/

namespace TagRules

/-- The registry that a job leaves to its requests. -/
def Job.prepared (r : Registry) : Job → Registry
  | .reapply => r.clearHistory
  | .setProcessing true => { r with gate := r.gate.resume.2 }
  | .setProcessing false => r.pause
  | _ => r

/-- The requests of a job. -/
def Job.asks (w : World) (r : Registry) : Job → List Ask
  | .initialise => r.asks (.applyToMany true w.population)
  | .applyOne id => r.asks (.applyToOne id)
  | .applyConstraint ref =>
    match r.current? ref with
    | none => []
    | some c => r.asks (.applyConstraint c w.population)
  | .reapply => r.asks (.applyToMany false w.population)
  | .staged batch =>
    (batch.flatMap fun (id, refs) => refs.map (id, ·)).filterMap fun (id, ref) =>
      (r.current? ref).map (⟨·, [id], true⟩)
  | .setProcessing true => r.revived r.gate.resume.1
  | .setProcessing false => []

/-- The subjects that a job touches, and the registry after its requests. -/
def Job.serve (w : World) (r : Registry) (job : Job) : List SubjectId × Registry :=
  (job.prepared r).serve w (job.asks w r)

/-- The evaluations of a job: those of its requests and, except for the first assignment, those of
following up its changes. -/
def Job.evaluations (w : World) (r : Registry) (job : Job) : List Evaluation :=
  (job.prepared r).evaluations w (job.asks w r) ++
    if job = .initialise then []
    else (job.serve w r).2.followUpEvaluations w (job.serve w r).1

/-- A job evaluates a constraint for a subject, if the constraint is still registered. -/
def Job.Promises (id : SubjectId) (ref : ConstraintRef) : Job → Prop
  | .applyOne other => other = id
  | .applyConstraint other => other = ref
  | .staged batch => ∃ refs, (id, refs) ∈ batch ∧ ref ∈ refs
  | _ => False

namespace Gate

theorem resume_of_last {g : Gate} (last : g.pauses = 1) : g.resume = (g.held, {}) := by
  simp only [resume, last]

theorem resume_of_not_last {g : Gate} (more : g.pauses ≠ 1) :
    g.resume = ([], { g with pauses := g.pauses - 1 }) := by
  obtain ⟨pauses, held⟩ := g
  match pauses, more with
  | 0, _ => rfl
  | n + 2, _ => rfl

end Gate

namespace Engine

variable {w : World} {r : Registry}

theorem applyStaged_eq_serve (w : World) (r : Registry) (batch : List (SubjectId × ConstraintRef)) :
    applyStaged w r batch = r.serve w (batch.filterMap fun (id, ref) =>
      (r.current? ref).map (⟨·, [id], true⟩)) := by
  induction batch generalizing r with
  | nil => rfl
  | cons entry batch ih =>
    obtain ⟨id, ref⟩ := entry
    cases current : r.current? ref with
    | none => simp only [applyStaged, List.filterMap_cons, current, Option.map_none, ih,
        List.nil_append]
    | some c =>
      have same (other : ConstraintRef) :
          (r.apply w c true [id]).2.current? other = r.current? other :=
        Registry.current?_congr (Registry.served_kept w r ⟨c, [id], true⟩).constraints other
      simp only [applyStaged, Registry.applyConstraint, List.filterMap_cons, current,
        Option.map_some, Registry.serve, ih, same]

/-- The first assignment serves its requests. -/
theorem work_initialise (w : World) (r : Registry) : Engine.work w r .initialise =
    { (Job.initialise.serve w r).2 with initialDone := true } :=
  congrArg Prod.snd (Registry.applyToMany_first_eq_serve r w w.population)

/-- Any other job serves its requests and follows up what they changed. -/
theorem work_eq_serve (sound : r.Sound) (running : r.stopping = false) {job : Job}
    (other : job ≠ .initialise) :
    Engine.work w r job = (job.serve w r).2.followUp w (job.serve w r).1 := by
  cases job with
  | initialise => contradiction
  | applyOne id => simp only [Engine.work, Registry.applyToOne_eq_serve]; rfl
  | applyConstraint ref =>
    cases current : r.current? ref with
    | none =>
      simp only [Engine.work, current, Job.serve, Job.asks, Registry.serve]
      rfl
    | some c =>
      simp only [Engine.work, current, Job.serve, Job.asks, Registry.applyConstraint_eq_serve]
      rfl
  | reapply =>
    have same := Registry.applyToMany_again_eq_serve r.clearHistory w w.population
    simp only [Engine.work, same]
    rfl
  | staged batch => simp only [Engine.work, applyStaged_eq_serve]; rfl
  | setProcessing enabled =>
    cases enabled with
    | false => rfl
    | true =>
      have same : Registry.runHeld { r with gate := r.gate.resume.2 } w r.gate.resume.1 =
          Registry.serve { r with gate := r.gate.resume.2 } w (r.revived r.gate.resume.1) := by
        by_cases last : r.gate.pauses = 1
        · simp only [r.gate.resume_of_last last]
          exact Registry.runHeld_eq_serve (r := { r with gate := {} }) running rfl sound.ready
        · simp only [r.gate.resume_of_not_last last]
          rfl
      simp only [Engine.work, Registry.setProcessing, Registry.resume, if_true, same]
      rfl

/-- A job records its evaluations as activity. -/
theorem work_activity (sound : r.Sound) (running : r.stopping = false) (job : Job) :
    (Engine.work w r job).ledger.activity =
      (job.evaluations w r).foldl (Evaluation.record w) r.ledger.activity := by
  have served : (job.serve w r).2.ledger.activity =
      ((job.prepared r).evaluations w (job.asks w r)).foldl (Evaluation.record w)
        r.ledger.activity := by
    have prepared : (job.prepared r).ledger.activity = r.ledger.activity := by
      unfold Job.prepared
      split <;> rfl
    rw [Job.serve, Registry.evaluations_activity, prepared]
  rw [Job.evaluations, List.foldl_append, ← served]
  by_cases first : job = .initialise
  · rw [if_pos first, first, work_initialise]
    rfl
  · rw [if_neg first, work_eq_serve sound running first]
    exact Registry.followUp_activity ..

/-- Beyond its requests, a job changes no more than requests do, except that after the first
assignment this is done. -/
theorem work_kept (sound : r.Sound) (running : r.stopping = false) (job : Job) :
    (job.serve w r).2.Kept
        { Engine.work w r job with initialDone := (job.serve w r).2.initialDone } ∧
      (job ≠ .initialise → (Engine.work w r job).initialDone = (job.serve w r).2.initialDone) := by
  by_cases first : job = .initialise
  · subst first
    rw [work_initialise]
    exact ⟨⟨rfl, rfl, rfl, rfl, rfl, fun _ h => h, fun _ => rfl⟩, fun other => absurd rfl other⟩
  · rw [work_eq_serve sound running first]
    have kept := (job.serve w r).2.followUp_kept w (job.serve w r).1
    exact ⟨⟨kept.constraints, kept.serial, kept.stopping, rfl, kept.pauses, kept.held, kept.opened⟩,
      fun _ => kept.initialDone⟩

/-! ### Events -/

/-- The evaluations that an event makes: only the running of a job makes any. -/
def evaluations (e : Engine) (w : World) : Event → List Evaluation
  | .work =>
    match e.queue with
    | [] => []
    | job :: _ => job.evaluations w e.registry
  | _ => []

/-- The evaluations of a history. -/
def evaluated (e : Engine) : List (World × Event) → List Evaluation
  | [] => []
  | (w, event) :: history => e.evaluations w event ++ (e.perform w event).evaluated history

/-- An event about a subject is accepted. -/
def accepts (e : Engine) (id : SubjectId) : Event → Bool
  | .subjectCreated other => other = id && e.acceptsEvents
  | .subjectStateChanged other => other = id && e.acceptsEvents
  | .membershipChanged other => other = id && e.registry.initialDone && e.active
  | _ => false

/-- The event matters to constraints that depend on the run state only. -/
def Event.onState : Event → Bool
  | .subjectStateChanged _ => true
  | _ => false

/-- An engine as it is built. -/
structure Built (e : Engine) : Prop where
  constraints : e.registry.constraints = {}
  gate : e.registry.gate = {}
  running : e.registry.stopping = false
  initialDone : e.registry.initialDone = false
  queue : e.queue = []
  initialised : e.initialised = false

/-- What holds of an engine between events: requests can be told from each other, nothing is held
back without a pause, and a first assignment was asked for. -/
structure Orderly (e : Engine) : Prop where
  sound : e.registry.Sound
  running : e.registry.stopping = false
  empty : e.registry.gate.isOpen = true → e.registry.gate.held = []
  initialised : e.registry.initialDone = true ∨ Job.initialise ∈ e.queue → e.initialised = true

/-- The engine owes the evaluation of a constraint for a subject: a job is waiting, the subject is
staged with the constraint, or a request is held back. Staging counts for constraints that depend on
the run state only. -/
def Owes (e : Engine) (onState : Bool) (id : SubjectId) (ref : ConstraintRef) : Prop :=
  (∃ job ∈ e.queue, job.Promises id ref) ∨
    (onState = true ∧ ∃ refs, e.staged.get? id = some refs ∧ ref ∈ refs) ∨ e.registry.Holds ref id

/-- Each constraint that is registered and matters was evaluated for a subject, or this is owed. -/
def Covered (e : Engine) (onState : Bool) (id : SubjectId) (done : List Evaluation) : Prop :=
  ∀ tag c, e.registry.constraints.get? tag = some c → c.isReady = true →
    (onState = true → c.dependsOnState = true) → ⟨c.ref, id⟩ ∈ done ∨ e.Owes onState id c.ref

/-- What a call leaves as it was, and what it sends for the constraints that it installs. -/
structure Calls (e e' : Engine) : Prop where
  stopping : e'.registry.stopping = e.registry.stopping
  gate : e'.registry.gate = e.registry.gate
  initialDone : e'.registry.initialDone = e.registry.initialDone
  initialised : e.initialised = true → e'.initialised = true
  queue : ∀ job ∈ e.queue, job ∈ e'.queue
  asked : .initialise ∈ e'.queue → .initialise ∈ e.queue ∨ e'.initialised = true
  constraints : e.initialised = true → ∀ tag c, e'.registry.constraints.get? tag = some c →
    (∃ d, e.registry.constraints.get? tag = some d ∧ d.ref = c.ref ∧ d.isReady = c.isReady ∧
      d.dependsOnState = c.dependsOnState) ∨ .applyConstraint c.ref ∈ e'.queue

theorem Calls.of_registry {e e' : Engine} (registry : e'.registry = e.registry)
    (initialised : e.initialised = true → e'.initialised = true)
    (queue : ∀ job ∈ e.queue, job ∈ e'.queue)
    (asked : .initialise ∈ e'.queue → .initialise ∈ e.queue ∨ e'.initialised = true) :
    e.Calls e' :=
  ⟨by rw [registry], by rw [registry], by rw [registry], initialised, queue, asked,
    fun _ _ c found => .inl ⟨c, registry ▸ found, rfl, rfl, rfl⟩⟩

variable {e : Engine}

theorem Calls.send (e : Engine) {job : Job} (other : job ≠ .initialise) : e.Calls (e.send job) := by
  refine .of_registry rfl id (fun _ mem => List.mem_append_left _ mem) fun mem => .inl ?_
  rcases List.mem_append.1 mem with mem | mem
  · exact mem
  · exact absurd (List.mem_singleton.1 mem).symm other

theorem Calls.refl (e : Engine) : e.Calls e :=
  .of_registry rfl id (fun _ h => h) .inl

theorem checkActive_eq (e : Engine) : ∃ active l,
    e.checkActive = { e with active, registry := { e.registry with ledger := l } } := by
  unfold checkActive
  dsimp only
  split
  · exact ⟨true, e.registry.ledger, rfl⟩
  · split
    · exact ⟨false, _, rfl⟩
    · exact ⟨e.active, e.registry.ledger, rfl⟩

/-- Whether the engine is active does not matter. -/
theorem Calls.checkActive {e' : Engine} (h : e.Calls e') : e.Calls e'.checkActive := by
  obtain ⟨active, l, same⟩ := checkActive_eq e'
  rw [same]
  exact ⟨h.stopping, h.gate, h.initialDone, h.initialised, h.queue, h.asked, h.constraints⟩

theorem Calls.of_ledger (e : Engine) (l : Ledger) (staged : Dict SubjectId (List ConstraintRef)) :
    e.Calls { e with registry := { e.registry with ledger := l }, staged } :=
  ⟨rfl, rfl, rfl, id, fun _ h => h, .inl, fun _ _ c found => .inl ⟨c, found, rfl, rfl, rfl⟩⟩

theorem Calls.erase (e : Engine) (tag : TagId) : e.Calls { e with
    registry := { e.registry with constraints := e.registry.constraints.erase tag } } := by
  refine ⟨rfl, rfl, rfl, id, fun _ h => h, .inl, fun _ other c found => .inl ⟨c, ?_, rfl, rfl, rfl⟩⟩
  change (e.registry.constraints.erase tag).get? other = some c at found
  rw [Dict.get?_erase] at found
  split at found
  · cases found
  · exact found

theorem setConstraint_calls (e : Engine) (w : World) (tag : TagId) (text options : String)
    (enabled : Bool) : e.Calls (e.setConstraint w tag text options enabled).2 := by
  have installation := Registry.setConstraint_installation e.registry w tag text options enabled
  unfold setConstraint
  generalize e.registry.setConstraint w tag text options enabled = result at installation ⊢
  cases installation with
  | same => exact (Calls.refl e).checkActive
  | dropped => exact (Calls.erase e tag).checkActive
  | @installed c l identity =>
    apply Calls.checkActive
    -- Once initialised, the new constraint is sent; every other one was there before.
    refine ⟨?_, ?_, ?_, ?_, ?_, ?_, ?_⟩
    · dsimp only
      split <;> rfl
    · dsimp only
      split <;> rfl
    · dsimp only
      split <;> rfl
    · dsimp only
      split <;> exact id
    · intro job mem
      dsimp only
      split
      · exact List.mem_append_left _ mem
      · exact mem
    · intro mem
      dsimp only at mem
      split at mem
      · rcases List.mem_append.1 mem with mem | mem
        · exact .inl mem
        · cases List.mem_singleton.1 mem
      · exact .inl mem
    · intro initialised other d found
      simp only [initialised, if_true] at found ⊢
      change (e.registry.constraints.insert tag c).get? other = some d at found
      rw [Dict.get?_insert] at found
      split at found
      · cases found
        exact .inr (List.mem_append_right _ List.mem_cons_self)
      · exact .inl ⟨d, found, rfl, rfl, rfl⟩

theorem tagMetadataChanged_calls (e : Engine) (tag : TagId) :
    e.Calls (e.tagMetadataChanged tag) := by
  refine ⟨rfl, rfl, rfl, id, fun _ h => h, .inl, fun _ other c found => .inl ?_⟩
  change (e.registry.constraints.modify tag (·.refresh e.registry.store)).get? other = some c at found
  rw [Dict.get?_modify] at found
  split at found
  · obtain ⟨d, old, rfl⟩ := Option.map_eq_some_iff.1 found
    exact ⟨d, old, rfl, rfl, rfl⟩
  · exact ⟨c, found, rfl, rfl, rfl⟩

theorem subjectDestroyed_calls (e : Engine) (id : SubjectId) :
    e.Calls (e.subjectDestroyed id) := by
  have forgotten : ∃ l, (e.registry.forgetSubject id).snapshot.foldl
      (fun r c => r.forgetOutcomes c id) (e.registry.forgetSubject id) =
        { e.registry with ledger := l } := by
    refine List.foldlRecOn _ _ (motive := fun r => ∃ l, r = { e.registry with ledger := l })
      ⟨(e.registry.forgetSubject id).ledger, rfl⟩ ?_
    rintro _ ⟨l, rfl⟩ c -
    unfold Registry.forgetOutcomes
    split
    · exact ⟨l, rfl⟩
    · exact ⟨_, rfl⟩
  obtain ⟨l, same⟩ := forgotten
  unfold subjectDestroyed
  dsimp only
  rw [same]
  exact .of_ledger e l _

theorem perform_calls (e : Engine) (w : World) {event : Event} (going : event ≠ .stop)
    (call : event ≠ .work) : e.Calls (e.perform w event) := by
  cases event with
  | setConstraint tag text options enabled => exact setConstraint_calls ..
  | removeConstraint tag => exact (Calls.erase e tag).checkActive
  | tagRemoved tag => exact (Calls.erase e tag).checkActive
  | tagMetadataChanged tag => exact tagMetadataChanged_calls ..
  | configChanged => exact .of_ledger e _ e.staged
  | initialise =>
    simp only [perform, initialise]
    split
    · exact .refl e
    · refine .of_registry rfl (fun _ => rfl) (fun _ mem => List.mem_append_left _ mem)
        fun _ => .inr rfl
  | subjectCreated id =>
    simp only [perform, subjectCreated]
    split
    · exact .send e (by simp)
    · exact .refl e
  | subjectStateChanged id =>
    simp only [perform, subjectStateChanged]
    split
    · split
      · exact .refl e
      · exact .of_ledger e e.registry.ledger _
    · exact .refl e
  | subjectDestroyed id => exact subjectDestroyed_calls e id
  | membershipChanged id =>
    simp only [perform, membershipChanged]
    split
    · exact .send e (by simp)
    · exact .refl e
  | setProcessing enabled => exact .send e (by simp)
  | tick =>
    simp only [perform, tick]
    split
    · exact .send e (by simp)
    · exact .refl e
  | dispatch =>
    simp only [perform, dispatch]
    split
    · exact .refl e
    · refine .of_registry rfl id (fun _ mem => List.mem_append_left _ mem) fun mem => .inl ?_
      rcases List.mem_append.1 mem with mem | mem
      · exact mem
      · cases List.mem_singleton.1 mem
  | outside f => exact .of_ledger e _ e.staged
  | stop => contradiction
  | work => contradiction

/-! ### Steps -/

theorem prepared_rest (r : Registry) (job : Job) :
    (job.prepared r).constraints = r.constraints ∧ (job.prepared r).stopping = r.stopping ∧
      (job.prepared r).initialDone = r.initialDone := by
  unfold Job.prepared
  split <;> exact ⟨rfl, rfl, rfl⟩

theorem prepared_empty (empty : r.gate.isOpen = true → r.gate.held = []) (job : Job) :
    (job.prepared r).gate.isOpen = true → (job.prepared r).gate.held = [] := by
  cases job with
  | setProcessing enabled =>
    cases enabled with
    | false => exact fun opened => nomatch opened
    | true =>
      intro opened
      by_cases last : r.gate.pauses = 1
      · simp only [Job.prepared, Gate.resume_of_last last]
      · simp only [Job.prepared, Gate.resume_of_not_last last, Gate.isOpen, decide_eq_true_eq]
          at opened ⊢
        exact empty (decide_eq_true (by omega))
  | _ => exact empty

/-- An engine that is not stopped stays in order. -/
theorem Orderly.perform (orderly : e.Orderly) (w : World) {event : Event} (going : event ≠ .stop) :
    (e.perform w event).Orderly := by
  have sound : (e.perform w event).registry.Sound := run_sound orderly.sound [(w, event)]
  by_cases call : event = .work
  · subst call
    cases queued : e.queue with
    | nil =>
      have same : e.perform w .work = e := by simp only [Engine.perform, runNext, queued]
      rwa [same]
    | cons job queue =>
      have same : e.perform w .work = { e with queue, registry := Engine.work w e.registry job } := by
        simp only [Engine.perform, runNext, queued]
      rw [same] at sound ⊢
      obtain ⟨-, running, initialDone⟩ := prepared_rest e.registry job
      have served := (job.prepared e.registry).serve_kept w (job.asks w e.registry)
      obtain ⟨kept, followed⟩ := work_kept (w := w) orderly.sound orderly.running job
      refine ⟨sound, ?_, fun opened => ?_, fun done => ?_⟩
      · exact kept.stopping.trans (served.stopping.trans (running.trans orderly.running))
      · have opened := kept.isOpen.symm.trans opened
        have opened' := served.isOpen.symm.trans opened
        exact (kept.opened opened).trans ((served.opened opened').trans
          (prepared_empty orderly.empty job opened'))
      · refine orderly.initialised ?_
        rw [queued]
        rcases done with done | asked
        · by_cases first : job = .initialise
          · exact .inr (first ▸ List.mem_cons_self)
          · exact .inl (initialDone.symm.trans (served.initialDone.symm.trans
              ((followed first).symm.trans done)))
        · exact .inr (List.mem_cons_of_mem _ asked)
  · have calls := perform_calls e w going call
    refine ⟨sound, calls.stopping.trans orderly.running, fun opened => ?_, fun done => ?_⟩
    · rw [calls.gate] at opened ⊢
      exact orderly.empty opened
    · rcases done with done | asked
      · exact calls.initialised (orderly.initialised (.inl (calls.initialDone.symm.trans done)))
      · exact (calls.asked asked).elim (fun old => calls.initialised (orderly.initialised (.inr old))) id

theorem checkActive_staged (e : Engine) : e.checkActive.staged = e.staged := by
  obtain ⟨active, l, same⟩ := checkActive_eq e
  rw [same]

theorem setConstraint_staged (e : Engine) (w : World) (tag : TagId) (text options : String)
    (enabled : Bool) : (e.setConstraint w tag text options enabled).2.staged = e.staged := by
  unfold setConstraint
  generalize e.registry.setConstraint w tag text options enabled = result
  obtain ⟨installed, registry⟩ := result
  dsimp only
  rw [checkActive_staged]
  cases installed with
  | none => rfl
  | some c =>
    dsimp only
    split <;> rfl

/-- What is staged for a subject stays so or is sent, unless the subject is forgotten. -/
theorem perform_staged (e : Engine) (w : World) {event : Event} {id : SubjectId}
    (kept : event ≠ .subjectDestroyed id) {tag : TagId} {c : Constraint}
    (found : e.registry.constraints.get? tag = some c) (onState : c.dependsOnState = true)
    {refs : List ConstraintRef} (staged : e.staged.get? id = some refs) (mem : c.ref ∈ refs) :
    (∃ refs, (e.perform w event).staged.get? id = some refs ∧ c.ref ∈ refs) ∨
      ∃ job ∈ (e.perform w event).queue, job.Promises id c.ref := by
  have same {e' : Engine} (h : e'.staged = e.staged) :
      ∃ refs, e'.staged.get? id = some refs ∧ c.ref ∈ refs :=
    ⟨refs, by rw [h]; exact staged, mem⟩
  cases event with
  | setConstraint tag text options enabled => exact .inl (same (setConstraint_staged ..))
  | removeConstraint tag => exact .inl (same (checkActive_staged _))
  | tagRemoved tag => exact .inl (same (checkActive_staged _))
  | tagMetadataChanged tag => exact .inl (same rfl)
  | configChanged => exact .inl (same rfl)
  | initialise =>
    refine .inl (same ?_)
    simp only [perform, initialise]
    split <;> rfl
  | subjectCreated other =>
    refine .inl (same ?_)
    simp only [perform, subjectCreated]
    split <;> rfl
  | subjectStateChanged other =>
    simp only [perform, subjectStateChanged]
    split
    · split
      · exact .inl (same rfl)
      · rw [Dict.get?_insert]
        split
        · refine .inl ⟨_, rfl, List.mem_map_of_mem ?_⟩
          exact List.mem_filter.2 ⟨Registry.mem_snapshot found, onState⟩
        · exact .inl ⟨refs, staged, mem⟩
    · exact .inl (same rfl)
  | subjectDestroyed other =>
    refine .inl ⟨refs, ?_, mem⟩
    have different : other ≠ id := fun same => kept (same ▸ rfl)
    exact (Dict.get?_erase_of_ne e.staged different).trans staged
  | membershipChanged other =>
    refine .inl (same ?_)
    simp only [perform, membershipChanged]
    split <;> rfl
  | setProcessing enabled => exact .inl (same rfl)
  | tick =>
    refine .inl (same ?_)
    simp only [perform, tick]
    split <;> rfl
  | dispatch =>
    simp only [perform, dispatch]
    split
    · exact .inl (same rfl)
    · refine .inr ⟨.staged e.staged.entries, List.mem_append_right _ List.mem_cons_self, refs, ?_, mem⟩
      exact Dict.mem_entries.2 staged
  | outside f => exact .inl (same rfl)
  | stop => exact .inl (same rfl)
  | work =>
    refine .inl (same ?_)
    simp only [perform, runNext]
    split <;> rfl

/-- A call hands on what is owed. -/
theorem Covered.call {e' : Engine} {onState : Bool} {id : SubjectId} {done : List Evaluation}
    (covered : e.Covered onState id done) (initialised : e.initialised = true)
    (calls : e.Calls e')
    (staged : onState = true → ∀ tag c, e.registry.constraints.get? tag = some c →
      c.dependsOnState = true → ∀ refs, e.staged.get? id = some refs → c.ref ∈ refs →
      (∃ refs, e'.staged.get? id = some refs ∧ c.ref ∈ refs) ∨
        ∃ job ∈ e'.queue, job.Promises id c.ref) : e'.Covered onState id done := by
  intro tag c found ready relevant
  rcases calls.constraints initialised tag c found with ⟨d, before, ref, able, state⟩ | sent
  · rw [← ref]
    have relevant' (h : onState = true) : d.dependsOnState = true := state.trans (relevant h)
    rcases covered tag d before (able.trans ready) relevant' with was | owed
    · exact .inl was
    · refine .inr ?_
      rcases owed with ⟨job, mem, promises⟩ | ⟨matters, refs, is, mem⟩ | held
      · exact .inl ⟨job, calls.queue job mem, promises⟩
      · rcases staged matters tag d before (relevant' matters) refs is mem with still | sent
        · exact .inr (.inl ⟨matters, still⟩)
        · exact .inl sent
      · refine .inr (.inr ?_)
        unfold Registry.Holds
        rw [calls.gate]
        exact held
  · exact .inr (.inl ⟨_, sent, rfl⟩)

/-- A job that promises an evaluation makes it, or the request is held back. -/
theorem evaluates_or_holds_of_promises (running : r.stopping = false) {job : Job}
    {id : SubjectId} {c : Constraint} (promises : job.Promises id c.ref)
    (found : r.constraints.get? c.tag = some c) (ready : c.isReady = true)
    (there : w.Present id) (member : id ∈ w.population) :
    ⟨c.ref, id⟩ ∈ job.evaluations w r ∨ (job.serve w r).2.Holds c.ref id := by
  have current : r.current? c.ref = some c := Registry.current?_eq_some.2 ⟨found, rfl⟩
  have asked : ∃ a ∈ job.asks w r, a.constraint = c ∧ id ∈ a.subjects := by
    have swept {cs : List Constraint} (mem : c ∈ cs) (check : Bool) {ids : List SubjectId}
        (asked : id ∈ ids) : ∃ a ∈ Registry.sweep cs check ids, a.constraint = c ∧ id ∈ a.subjects :=
      ⟨⟨c, ids, check⟩, List.mem_map_of_mem (List.mem_filter.2 ⟨mem, ready⟩), rfl, asked⟩
    cases job with
    | applyOne other =>
      cases promises
      exact swept (Registry.mem_snapshot found) true (List.mem_singleton_self _)
    | applyConstraint other =>
      cases promises
      simp only [Job.asks, current]
      exact swept (List.mem_singleton_self c) true member
    | staged batch =>
      obtain ⟨refs, mem, among⟩ := promises
      refine ⟨⟨c, [id], true⟩, ?_, rfl, List.mem_singleton_self _⟩
      refine List.mem_filterMap.2 ⟨(id, c.ref), ?_, ?_⟩
      · exact List.mem_flatMap.2 ⟨(id, refs), mem, List.mem_map_of_mem among⟩
      · simp only [current, Option.map_some]
    | _ => cases promises
  obtain ⟨a, mem, rfl, asked⟩ := asked
  obtain ⟨-, prepared, -⟩ := prepared_rest r job
  rcases Registry.evaluates_or_holds mem ready (prepared.trans running) asked there with
    evaluated | held
  · exact .inl (List.mem_append_left _ evaluated)
  · exact .inr held

/-- What is held back is evaluated by the job that lifts the last pause, or stays held back. -/
theorem evaluates_or_holds_of_holds (running : r.stopping = false) (job : Job)
    {id : SubjectId} {c : Constraint} (held : r.Holds c.ref id)
    (found : r.constraints.get? c.tag = some c) (ready : c.isReady = true)
    (there : w.Present id) :
    ⟨c.ref, id⟩ ∈ job.evaluations w r ∨ (job.serve w r).2.Holds c.ref id := by
  have still (same : (job.prepared r).gate.held = r.gate.held) :
      (job.serve w r).2.Holds c.ref id := by
    have prepared : (job.prepared r).Holds c.ref id := by
      unfold Registry.Holds
      rwa [same]
    exact prepared.kept (Registry.serve_kept ..)
  cases job with
  | setProcessing enabled =>
    cases enabled with
    | false => exact .inr (still rfl)
    | true =>
      by_cases last : r.gate.pauses = 1
      · obtain ⟨request, mem, same, asked⟩ := held
        have current : r.current? request.constraint = some c := by
          rw [same]
          exact Registry.current?_eq_some.2 ⟨found, rfl⟩
        refine .inl (List.mem_append_left _ ?_)
        refine Registry.mem_evaluations (a := ⟨c, request.subjects, request.checkDependencies⟩) ?_
          ready running ?_ asked there
        · simp only [Job.asks, Gate.resume_of_last last]
          exact List.mem_filterMap.2 ⟨request, mem, by rw [current]; rfl⟩
        · simp only [Job.prepared, Gate.resume_of_last last]
          rfl
      · refine .inr (still ?_)
        simp only [Job.prepared, Gate.resume_of_not_last last]
  | _ => exact .inr (still rfl)

/-- Each event hands on what is owed or makes the evaluation. -/
theorem Covered.perform {onState : Bool} {id : SubjectId} {done : List Evaluation}
    (covered : e.Covered onState id done) (orderly : e.Orderly) (initialised : e.initialised = true)
    {w : World} {event : Event} (going : event ≠ .stop) (kept : event ≠ .subjectDestroyed id)
    (there : w.Present id) (member : id ∈ w.population) :
    (e.perform w event).Covered onState id (done ++ e.evaluations w event) := by
  by_cases call : event = .work
  · subst call
    cases queued : e.queue with
    | nil =>
      have same : e.perform w .work = e := by simp only [Engine.perform, runNext, queued]
      rw [same]
      simpa only [evaluations, queued, List.append_nil] using covered
    | cons job queue =>
      have same : e.perform w .work = { e with queue, registry := Engine.work w e.registry job } := by
        simp only [Engine.perform, runNext, queued]
      obtain ⟨constraints, -, -⟩ := prepared_rest e.registry job
      have served := (job.prepared e.registry).serve_kept w (job.asks w e.registry)
      obtain ⟨after, -⟩ := work_kept (w := w) orderly.sound orderly.running job
      rw [same]
      simp only [evaluations, queued]
      intro tag c found ready relevant
      rw [after.constraints.trans (served.constraints.trans constraints)] at found
      have filed : c.tag = tag := orderly.sound.filed tag c found
      have made (h : ⟨c.ref, id⟩ ∈ job.evaluations w e.registry ∨
          (job.serve w e.registry).2.Holds c.ref id) :
          ⟨c.ref, id⟩ ∈ done ++ job.evaluations w e.registry ∨
            Owes { e with queue, registry := Engine.work w e.registry job } onState id c.ref := by
        rcases h with evaluated | held
        · exact .inl (List.mem_append_right _ evaluated)
        · obtain ⟨request, mem, asked⟩ := held
          exact .inr (.inr (.inr ⟨request, after.held request mem, asked⟩))
      rcases covered tag c found ready relevant with was | ⟨other, mem, promises⟩ | staged | held
      · exact .inl (List.mem_append_left _ was)
      · rw [queued] at mem
        rcases List.mem_cons.1 mem with rfl | mem
        · exact made (evaluates_or_holds_of_promises orderly.running promises
            (filed ▸ found) ready there member)
        · exact .inr (.inl ⟨other, mem, promises⟩)
      · exact .inr (.inr (.inl staged))
      · exact made (evaluates_or_holds_of_holds orderly.running job held
          (filed ▸ found) ready there)
  · have none : e.evaluations w event = [] := by cases event <;> first | rfl | contradiction
    rw [none, List.append_nil]
    exact covered.call initialised (perform_calls e w going call)
      fun _ tag c found onState refs staged mem => perform_staged e w kept found onState staged mem

theorem initialised_perform (e : Engine) (w : World) {event : Event} (going : event ≠ .stop)
    (initialised : e.initialised = true) : (e.perform w event).initialised = true := by
  by_cases call : event = .work
  · subst call
    simp only [perform, runNext]
    split <;> exact initialised
  · exact (perform_calls e w going call).initialised initialised

/-- A history hands on what is owed or makes the evaluations. -/
theorem Covered.run {onState : Bool} {id : SubjectId} {done : List Evaluation}
    (covered : e.Covered onState id done) (orderly : e.Orderly) (initialised : e.initialised = true)
    (history : List (World × Event)) (going : ∀ step ∈ history, step.2 ≠ .stop)
    (kept : ∀ step ∈ history, step.2 ≠ .subjectDestroyed id)
    (there : ∀ step ∈ history, step.1.Present id ∧ id ∈ step.1.population) :
    (e.run history).Covered onState id (done ++ e.evaluated history) := by
  induction history generalizing e done with
  | nil =>
    rw [evaluated, List.append_nil]
    exact covered
  | cons step history ih =>
    obtain ⟨w, event⟩ := step
    obtain ⟨going, going'⟩ := List.forall_mem_cons.1 going
    obtain ⟨kept, kept'⟩ := List.forall_mem_cons.1 kept
    obtain ⟨⟨there, member⟩, there'⟩ := List.forall_mem_cons.1 there
    have next := covered.perform orderly initialised going kept there member
    have rest := ih next (orderly.perform w going) (initialised_perform e w going initialised)
      going' kept' there'
    rwa [List.append_assoc] at rest

theorem Orderly.run (orderly : e.Orderly) (history : List (World × Event))
    (going : ∀ step ∈ history, step.2 ≠ .stop) : (e.run history).Orderly := by
  induction history generalizing e with
  | nil => exact orderly
  | cons step history ih =>
    obtain ⟨going, going'⟩ := List.forall_mem_cons.1 going
    exact ih (orderly.perform step.1 going) going'

theorem Built.orderly (built : e.Built) : e.Orderly where
  sound := Fresh.sound ⟨built.constraints, by rw [built.gate]⟩
  running := built.running
  empty _ := by rw [built.gate]
  initialised := by
    rw [built.initialDone, built.queue]
    rintro (done | asked)
    · cases done
    · cases asked

/-- An engine that accepts an event is initialised. -/
theorem initialised_of_accepts (orderly : e.Orderly) {id : SubjectId} {event : Event}
    (accepted : e.accepts id event = true) : e.initialised = true := by
  cases event with
  | subjectCreated other =>
    simp only [accepts, acceptsEvents, Bool.and_eq_true] at accepted
    exact accepted.2.1.1
  | subjectStateChanged other =>
    simp only [accepts, acceptsEvents, Bool.and_eq_true] at accepted
    exact accepted.2.1.1
  | membershipChanged other =>
    simp only [accepts, Bool.and_eq_true] at accepted
    exact orderly.initialised (.inl accepted.1.2)
  | _ => cases accepted

/-- With an event that is accepted, the engine owes all evaluations that the event calls for. -/
theorem covered_of_accepts {id : SubjectId} {event : Event}
    (accepted : e.accepts id event = true) (w : World) :
    (e.perform w event).Covered event.onState id [] := by
  intro tag c found ready relevant
  refine .inr ?_
  cases event with
  | subjectCreated other =>
    simp only [accepts, Bool.and_eq_true, decide_eq_true_eq] at accepted
    simp only [perform, subjectCreated, accepted.2, if_true]
    exact .inl ⟨.applyOne other, List.mem_append_right _ List.mem_cons_self, accepted.1⟩
  | membershipChanged other =>
    simp only [accepts, Bool.and_eq_true, decide_eq_true_eq] at accepted
    simp only [perform, membershipChanged, accepted.1.2, accepted.2, Bool.and_self, if_true]
    exact .inl ⟨.applyOne other, List.mem_append_right _ List.mem_cons_self, accepted.1.1⟩
  | subjectStateChanged other =>
    simp only [accepts, Bool.and_eq_true, decide_eq_true_eq] at accepted
    obtain ⟨rfl, accepted⟩ := accepted
    have registry : (e.perform w (.subjectStateChanged other)).registry = e.registry := by
      simp only [perform, subjectStateChanged, accepted, if_true]
      split <;> rfl
    rw [registry] at found
    have mem : c.ref ∈ e.registry.stateDependent.map (·.ref) :=
      List.mem_map_of_mem (List.mem_filter.2 ⟨Registry.mem_snapshot found, relevant rfl⟩)
    have some : (e.registry.stateDependent.map (·.ref)).isEmpty = false :=
      List.isEmpty_eq_false_iff.2 (List.ne_nil_of_mem mem)
    simp only [perform, subjectStateChanged, accepted, some, if_true, Bool.false_eq_true, if_false]
    exact .inr (.inl ⟨rfl, _, Dict.get?_insert_self .., mem⟩)
  | _ => cases accepted

/-- No accepted event about a subject is lost. Whatever happens afterwards, short of stopping the
engine or destroying the subject: at a moment without pause when no job is waiting and nothing is
staged, every constraint that can be applied was evaluated for the subject since, or, after a change
of the run state, every one that depends on it. -/
theorem accepted_evaluated (built : e.Built) (before : List (World × Event)) (w : World)
    (event : Event) (after : List (World × Event)) {id : SubjectId}
    (accepted : (e.run before).accepts id event = true)
    (going : ∀ step ∈ before ++ (w, event) :: after, step.2 ≠ .stop)
    (kept : ∀ step ∈ after, step.2 ≠ .subjectDestroyed id)
    (there : ∀ step ∈ after, step.1.Present id ∧ id ∈ step.1.population)
    (drained : (e.run (before ++ (w, event) :: after)).queue = [])
    (delivered : (e.run (before ++ (w, event) :: after)).staged.isEmpty = true)
    (opened : (e.run (before ++ (w, event) :: after)).registry.gate.isOpen = true)
    {tag : TagId} {c : Constraint}
    (found : (e.run (before ++ (w, event) :: after)).registry.constraints.get? tag = some c)
    (ready : c.isReady = true) (relevant : event.onState = true → c.dependsOnState = true) :
    ⟨c.ref, id⟩ ∈ ((e.run before).perform w event).evaluated after := by
  have going' := (List.forall_mem_append.1 going).1
  obtain ⟨now, later⟩ := List.forall_mem_cons.1 (List.forall_mem_append.1 going).2
  have orderly := built.orderly.run before going'
  have next := orderly.perform w now
  have initialised := initialised_perform _ w now (initialised_of_accepts orderly accepted)
  have covered := (covered_of_accepts accepted w).run next initialised after later kept there
  have last : e.run (before ++ (w, event) :: after) = ((e.run before).perform w event).run after := by
    simp only [run, List.foldl_append, List.foldl_cons]
  rw [last] at drained delivered opened found
  rw [List.nil_append] at covered
  rcases covered tag c found ready relevant with evaluated | ⟨job, mem, -⟩ | ⟨-, refs, is, -⟩ | held
  · exact evaluated
  · rw [drained] at mem
    cases mem
  · have entry := Dict.mem_entries.2 is
    rw [List.isEmpty_iff.1 delivered] at entry
    cases entry
  · obtain ⟨request, mem, -⟩ := held
    rw [(next.run after later).empty opened] at mem
    cases mem

/-- A constraint is made and applied for the first time. -/
def assigned : List (World × Event) :=
  [(loneSubject, .setConstraint ⟨1⟩ "!isPaused()" "" true), (loneSubject, .initialise),
    (loneSubject, .work)]

/-- In a pause, the constraint is replaced while a request is held back. -/
def replaced : List (World × Event) :=
  [(loneSubject, .setProcessing false), (loneSubject, .work), (loneSubject, .dispatch),
    (loneSubject, .work), (loneSubject, .setConstraint ⟨1⟩ "isPaused()" "" true),
    (loneSubject, .work), (loneSubject, .setProcessing true), (loneSubject, .work)]

/-- The new constraint was evaluated after the change of the run state. -/
theorem replaced_evaluated :
    Built {} ∧ (run {} assigned).accepts ⟨7⟩ (.subjectStateChanged ⟨7⟩) = true ∧
    ∃ c, (run {} (assigned ++ (loneSubject, .subjectStateChanged ⟨7⟩) :: replaced)).registry.constraints.get?
        ⟨1⟩ = some c ∧ c.serial = 1 ∧
      ⟨c.ref, ⟨7⟩⟩ ∈
        ((run {} assigned).perform loneSubject (.subjectStateChanged ⟨7⟩)).evaluated replaced := by
  have built : Built {} := ⟨rfl, rfl, rfl, rfl, rfl, rfl⟩
  have accepted : (run {} assigned).accepts ⟨7⟩ (.subjectStateChanged ⟨7⟩) = true := by
    decide +kernel
  have made : ((run {} (assigned ++ (loneSubject, .subjectStateChanged ⟨7⟩) :: replaced)).registry.constraints.get?
      ⟨1⟩).map (fun c => (c.serial, c.isReady, c.dependsOnState)) = some (1, true, true) := by
    decide +kernel
  obtain ⟨c, found, made⟩ := Option.map_eq_some_iff.1 made
  simp only [Prod.mk.injEq] at made
  obtain ⟨serial, ready, state⟩ := made
  refine ⟨built, accepted, c, found, serial, ?_⟩
  have there : loneSubject.Present ⟨7⟩ ∧ (⟨7⟩ : SubjectId) ∈ loneSubject.population :=
    ⟨⟨_, rfl, rfl⟩, List.mem_singleton_self _⟩
  refine accepted_evaluated built assigned loneSubject (.subjectStateChanged ⟨7⟩) replaced accepted
    ?_ ?_ ?_ (by decide +kernel) (by decide +kernel) (by decide +kernel) found ready fun _ => state
  · simp [assigned, replaced]
  · simp [replaced]
  · simpa [replaced] using there

end Engine

end TagRules
