import TagRules.Proofs.Engine.Evaluated
import TagRules.Proofs.Registry.Steps

/-!
# What events do to the ledger

Of all events, only the running of a job takes steps on the ledger: those of its requests and of
following up (`Engine.work_steps`). A call leaves memberships and their log alone, and also what is
kept of additions, unless the engine becomes idle (`Engine.perform_leaves`). No event puts a stamp
into a cache that was not given out (`Engine.run_stamped`).
-/

namespace TagRules

namespace Registry

variable {w : World} {r : Registry}

theorem followUpFrom_steps (w : World) (fuel : Nat) (queue : List SubjectId)
    (runs : Dict SubjectId Nat) (r : Registry) :
    ∃ ids, r.Steps w (w.Recorded fun _ => True) (ids, followUpFrom w fuel queue runs r) := by
  induction fuel generalizing queue runs r with
  | zero => exact ⟨[], .refl r⟩
  | succ fuel ih =>
    cases queue with
    | nil => exact ⟨[], .refl r⟩
    | cons id queue =>
      unfold followUpFrom
      split
      · exact ⟨[], .refl r⟩
      · dsimp only
        split
        · exact ih ..
        · have first : r.Steps w (w.Recorded fun _ => True) (r.applyToOne w id) :=
            (r.applyToOne_steps w id).all
          obtain ⟨ids, later⟩ := ih (enqueue queue (r.applyToOne w id).1) _ (r.applyToOne w id).2
          exact ⟨_, first.trans later⟩

/-- A request and the following up of its changes. -/
theorem Steps.followUp {ids : List SubjectId} {r' : Registry}
    (h : r.Steps w (w.Recorded fun _ => True) (ids, r')) (touched : List SubjectId) :
    ∃ more, r.Steps w (w.Recorded fun _ => True) (more, r'.followUp w touched) := by
  unfold Registry.followUp
  split
  · exact ⟨ids, h⟩
  · obtain ⟨more, later⟩ := followUpFrom_steps w
      ((maxFollowUps + 1) * (enqueue [] touched).length) (enqueue [] touched) {} r'
    exact ⟨ids ++ more, h.trans later⟩

end Registry

namespace Engine

theorem applyStaged_steps (w : World) (r : Registry) (batch : List (SubjectId × ConstraintRef)) :
    r.Steps w (w.Recorded fun _ => True) (applyStaged w r batch) := by
  induction batch generalizing r with
  | nil => exact .refl r
  | cons entry batch ih =>
    refine .trans ?_ (ih _)
    cases r.current? entry.2 with
    | none => exact .refl r
    | some c => exact (Registry.apply_steps r w c true [entry.1]).all

/-- What a job does before its requests changes neither the store nor a cache. -/
theorem prepared_services (r : Registry) (job : Job) :
    (job.prepared r).ledger.services = r.ledger.services := by
  unfold Job.prepared
  split <;> rfl

/-- A job changes the ledger by steps. -/
theorem work_steps (w : World) (r : Registry) (job : Job) : ∃ ids,
    (job.prepared r).Steps w (w.Recorded fun _ => True) (ids, Engine.work w r job) := by
  cases job with
  | initialise => exact ⟨_, (r.applyToMany_steps w true w.population).all⟩
  | applyOne id => exact (r.applyToOne_steps w id).all.followUp _
  | applyConstraint ref =>
    simp only [Engine.work]
    cases r.current? ref with
    | none => exact ⟨[], .refl r⟩
    | some c => exact (r.apply_steps w c true w.population).all.followUp _
  | reapply => exact (r.clearHistory.applyToMany_steps w false w.population).all.followUp _
  | staged batch => exact (applyStaged_steps w r _).followUp _
  | setProcessing enabled =>
    obtain ⟨ids, steps⟩ := (r.setProcessing_steps w enabled).followUp (r.setProcessing w enabled).1
    cases enabled <;> exact ⟨ids, steps.ledger, steps.rulebook⟩

/-- What a call leaves as it was: memberships and the log of changes, and what is kept of additions
unless the engine becomes idle. -/
structure Leaves (e e' : Engine) : Prop where
  rolls : e'.registry.store.rolls = e.registry.store.rolls
  log : e'.registry.store.log = e.registry.store.log
  cooldown : e'.registry.cooldown = e.registry.cooldown
  history : (e.active = true → e'.active = true) →
    e'.registry.ledger.history = e.registry.ledger.history

variable {e e' : Engine}

theorem Leaves.of_registry (registry : e'.registry = e.registry) : e.Leaves e' :=
  ⟨by rw [registry], by rw [registry], by rw [registry], fun _ => by rw [registry]⟩

/-- What was left alone so far is left alone when the engine becomes active or idle. -/
theorem Leaves.checkActive (h : e.Leaves e') (same : e'.active = e.active) :
    e.Leaves e'.checkActive := by
  unfold Engine.checkActive
  dsimp only
  split
  · exact ⟨h.rolls, h.log, h.cooldown, fun _ => h.history fun active => same.trans active⟩
  · split
    · next active =>
      exact ⟨h.rolls, h.log, h.cooldown, fun stays => nomatch stays (same.symm.trans active)⟩
    · exact h

theorem setConstraint_leaves (e : Engine) (w : World) (tag : TagId) (text options : String)
    (enabled : Bool) : e.Leaves (e.setConstraint w tag text options enabled).2 := by
  have installation := Registry.setConstraint_installation e.registry w tag text options enabled
  unfold setConstraint
  generalize e.registry.setConstraint w tag text options enabled = result at installation ⊢
  cases installation with
  | same => exact Leaves.checkActive (.of_registry rfl) rfl
  | dropped => exact Leaves.checkActive ⟨rfl, rfl, rfl, fun _ => rfl⟩ rfl
  | @installed c l _ rolls log history =>
    dsimp only
    split
    · exact Leaves.checkActive ⟨rolls, log, rfl, fun _ => history⟩ rfl
    · exact Leaves.checkActive ⟨rolls, log, rfl, fun _ => history⟩ rfl

/-- What the dropping of outcomes preserves, it preserves for several constraints. -/
theorem foldl_forgetOutcomes {P : Registry → Prop} {id : SubjectId}
    (step : ∀ r ps, P r → P (r.mapServices (·.forgetOutcomes id ps))) (cs : List Constraint)
    (r : Registry) (start : P r) : P (cs.foldl (fun r c => r.forgetOutcomes c id) r) := by
  refine List.foldlRecOn cs _ start fun r before c _ => ?_
  unfold Registry.forgetOutcomes
  split
  · exact before
  · exact step r _ before

theorem subjectDestroyed_leaves (e : Engine) (id : SubjectId) : e.Leaves (e.subjectDestroyed id) := by
  obtain ⟨s, store, same⟩ : ∃ s, s.store = e.registry.store ∧
      (e.registry.forgetSubject id).snapshot.foldl (fun r c => r.forgetOutcomes c id)
        (e.registry.forgetSubject id) = e.registry.mapServices fun _ => s := by
    refine foldl_forgetOutcomes
      (P := fun r => ∃ s, s.store = e.registry.store ∧ r = e.registry.mapServices fun _ => s)
      ?_ _ _ ⟨e.registry.ledger.services.forgetSubject id, rfl, rfl⟩
    rintro _ ps ⟨s, store, rfl⟩
    exact ⟨s.forgetOutcomes id ps, store, rfl⟩
  unfold subjectDestroyed
  dsimp only
  rw [same]
  exact ⟨congrArg TagStore.rolls store, congrArg TagStore.log store, rfl, fun _ => rfl⟩

/-- A call changes no membership and forgets no addition, unless the engine becomes idle. -/
theorem perform_leaves (e : Engine) (w : World) {event : Event} (call : event ≠ .work)
    (inside : event.isOutside = false) : e.Leaves (e.perform w event) := by
  cases event with
  | setConstraint tag text options enabled => exact setConstraint_leaves ..
  | removeConstraint tag => exact Leaves.checkActive ⟨rfl, rfl, rfl, fun _ => rfl⟩ rfl
  | tagRemoved tag => exact Leaves.checkActive ⟨rfl, rfl, rfl, fun _ => rfl⟩ rfl
  | tagMetadataChanged tag => exact ⟨rfl, rfl, rfl, fun _ => rfl⟩
  | configChanged => exact ⟨rfl, rfl, rfl, fun _ => rfl⟩
  | initialise =>
    refine .of_registry ?_
    simp only [perform, initialise]
    split <;> rfl
  | subjectCreated id =>
    refine .of_registry ?_
    simp only [perform, subjectCreated]
    split <;> rfl
  | subjectStateChanged id =>
    refine .of_registry ?_
    simp only [perform, subjectStateChanged]
    split
    · split <;> rfl
    · rfl
  | subjectDestroyed id => exact subjectDestroyed_leaves e id
  | membershipChanged id =>
    refine .of_registry ?_
    simp only [perform, membershipChanged]
    split <;> rfl
  | setProcessing enabled => exact .of_registry rfl
  | tick =>
    refine .of_registry ?_
    simp only [perform, tick]
    split <;> rfl
  | stop => exact ⟨rfl, rfl, rfl, fun _ => rfl⟩
  | dispatch =>
    refine .of_registry ?_
    simp only [perform, dispatch]
    split <;> rfl
  | work => contradiction
  | outside f => cases inside

/-! ### Caches stay stamped -/

theorem work_stamped (w : World) (r : Registry) (job : Job) (stamped : r.ledger.services.Stamped) :
    (Engine.work w r job).ledger.services.Stamped := by
  obtain ⟨ids, steps⟩ := work_steps w r job
  refine steps.ledger.stamped ?_
  rwa [prepared_services]

theorem checkActive_services (e : Engine) :
    e.checkActive.registry.ledger.services = e.registry.ledger.services := by
  unfold checkActive
  dsimp only
  split
  · rfl
  · split <;> rfl

/-- An event puts no stamp into a cache that was not given out. -/
theorem perform_stamped (e : Engine) (w : World) (event : Event)
    (stamped : e.registry.ledger.services.Stamped) :
    (e.perform w event).registry.ledger.services.Stamped := by
  cases event with
  | setConstraint tag text options enabled =>
    have kept := Registry.setConstraint_stamped w tag text options enabled stamped
    simp only [perform, setConstraint, checkActive_services]
    generalize e.registry.setConstraint w tag text options enabled = result at kept ⊢
    split
    · split <;> exact kept
    · exact kept
  | removeConstraint tag => exact (checkActive_services _).symm ▸ stamped
  | tagRemoved tag => exact (checkActive_services _).symm ▸ stamped
  | tagMetadataChanged tag => exact stamped
  | configChanged => exact stamped.congr rfl rfl rfl
  | initialise =>
    simp only [perform, initialise]
    split <;> exact stamped
  | subjectCreated id =>
    simp only [perform, subjectCreated]
    split <;> exact stamped
  | subjectStateChanged id =>
    simp only [perform, subjectStateChanged]
    split
    · split <;> exact stamped
    · exact stamped
  | subjectDestroyed id =>
    exact foldl_forgetOutcomes (P := (·.ledger.services.Stamped))
      (fun _ ps stamped => stamped.forgetOutcomes id ps) _ _ (stamped.forgetSubject id)
  | membershipChanged id =>
    simp only [perform, membershipChanged]
    split <;> exact stamped
  | setProcessing enabled => exact stamped
  | tick =>
    simp only [perform, tick]
    split <;> exact stamped
  | stop => exact stamped
  | dispatch =>
    simp only [perform, dispatch]
    split <;> exact stamped
  | work =>
    simp only [perform, runNext]
    split
    · exact stamped
    · exact work_stamped w _ _ stamped
  | outside f => exact stamped.congr rfl rfl rfl

/-- Whatever happens to an engine, every stamp in its caches was given out, if that was so at first. -/
theorem run_stamped (e : Engine) (history : List (World × Event))
    (stamped : e.registry.ledger.services.Stamped) :
    (e.run history).registry.ledger.services.Stamped :=
  List.foldlRecOn history _ (motive := fun e : Engine => e.registry.ledger.services.Stamped) stamped
    fun e stamped step _ => perform_stamped e step.1 step.2 stamped

end Engine

end TagRules
