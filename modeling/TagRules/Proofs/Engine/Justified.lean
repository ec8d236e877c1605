import TagRules.Proofs.Engine.History
import TagRules.Proofs.Registry.Requests
import TagRules.Proofs.Registry.Setting

/-!
# An engine changes memberships for a reason

Whatever happens to an engine, it adds a subject to a tag only if the constraint of that tag calls
for it at that moment, and removes one only if the constraint rules it out
(`Engine.perform_justified`). Of all events, only the running of a job changes memberships; the
subjects of these changes are those that the job names, and those found again in following up its
own changes.
-/

namespace TagRules

/-- The subjects of a request, and the ones that are decided again since the request changed them. -/
inductive World.Follows (w : World) (asked : SubjectId → Prop) : SubjectId → Prop
  | asked {id} (h : asked id) : Follows w asked id
  | touched {id subject} (h : Follows w asked id) (found : w.subjects.get? id = some subject) :
    Follows w asked subject.record.id

/-- Where subjects are filed under their own identities, following up leads to no new ones. -/
theorem World.Follows.elim {w : World} {asked : SubjectId → Prop} {id : SubjectId}
    (h : w.Follows asked id)
    (filed : ∀ id subject, w.subjects.get? id = some subject → subject.record.id = id) :
    asked id := by
  induction h with
  | asked h => exact h
  | touched _ found ih => exact filed _ _ found ▸ ih

theorem World.Found.follows {w : World} {asked : SubjectId → Prop} {id : SubjectId}
    (h : w.Found (w.Follows asked) id) : w.Follows asked id := by
  obtain ⟨other, subject, follows, found, rfl⟩ := h
  exact .touched follows found

/-- The subjects that a job names. -/
def Job.Names (w : World) (r : Registry) : Job → SubjectId → Prop
  | .initialise, id => id ∈ w.population
  | .applyOne subject, id => id = subject
  | .applyConstraint _, id => id ∈ w.population
  | .reapply, id => id ∈ w.population
  | .staged batch, id => ∃ refs, (id, refs) ∈ batch
  | .setProcessing enabled, id => enabled = true ∧ ∃ request ∈ r.gate.held, id ∈ request.subjects

theorem mem_enqueue {queue more : List SubjectId} {id : SubjectId} (h : id ∈ enqueue queue more) :
    id ∈ queue ∨ id ∈ more := by
  induction more generalizing queue with
  | nil => exact .inl h
  | cons other more ih =>
    rcases ih h with h | h
    · simp only [] at h
      split at h
      · exact .inl h
      · rcases List.mem_append.1 h with h | h
        · exact .inl h
        · exact .inr (List.mem_singleton.1 h ▸ List.mem_cons_self)
    · exact .inr (List.mem_cons_of_mem _ h)

namespace Registry

variable {w : World} {asked : SubjectId → Prop} {r r' : Registry} {ids : List SubjectId}

/-- Following up serves subjects that are decided again. -/
theorem followUpFrom_serves (fuel : Nat) (queue : List SubjectId)
    (follows : ∀ id ∈ queue, w.Follows asked id) (runs : Dict SubjectId Nat) (sound : r.Sound) :
    r.Serves w (w.Follows asked) ([], followUpFrom w fuel queue runs r) := by
  induction fuel generalizing queue runs r with
  | zero => exact .refl sound
  | succ fuel ih =>
    cases queue with
    | nil => exact .refl sound
    | cons id queue =>
      have first := follows id List.mem_cons_self
      have others (other : SubjectId) (h : other ∈ queue) := follows other (List.mem_cons_of_mem _ h)
      unfold followUpFrom
      split
      · exact .refl sound
      · simp only []
        split
        · exact ih queue others _ sound
        · have one : r.Serves w (w.Follows asked) (r.applyToOne w id) := by
            refine (applyToOne_serves sound id).imp fun other same => ?_
            rwa [same]
          refine one.silent.trans (ih _ (fun other mem => ?_) _ one.sound)
          rcases mem_enqueue mem with mem | mem
          · exact others other mem
          · exact (one.touched other mem).follows

/-- A request and the following up of its changes. -/
theorem Serves.followUp (h : r.Serves w asked (ids, r')) :
    r.Serves w (w.Follows asked) ([], r'.followUp w ids) := by
  have first : r.Serves w (w.Follows asked) (ids, r') := h.imp fun _ => .asked
  unfold Registry.followUp
  split
  · exact first.silent
  · refine first.silent.trans (followUpFrom_serves _ _ (fun id mem => ?_) _ first.sound)
    rcases mem_enqueue mem with mem | mem
    · cases mem
    · exact (first.touched id mem).follows

end Registry

namespace Engine

variable {w : World} {r : Registry}

theorem applyStaged_serves (batch : List (SubjectId × ConstraintRef)) (sound : r.Sound) :
    r.Serves w (fun id => ∃ ref, (id, ref) ∈ batch) (applyStaged w r batch) := by
  induction batch generalizing r with
  | nil => exact .refl sound
  | cons entry batch ih =>
    obtain ⟨id, ref⟩ := entry
    have first : r.Serves w (· = id) (r.withCurrent ref fun c => r.applyConstraint w c [id]) :=
      Registry.withCurrent_serves sound fun c current =>
        (Registry.applyConstraint_serves sound current [id]).imp
          fun _ mem => List.mem_singleton.1 mem
    have rest := ih first.sound
    refine (first.imp fun _ same => ⟨ref, same ▸ List.mem_cons_self⟩).trans
      (rest.imp fun _ later => ?_)
    obtain ⟨ref, mem⟩ := later
    exact ⟨ref, List.mem_cons_of_mem _ mem⟩

/-- A job serves the subjects that it names and follows up its changes. -/
theorem work_serves (sound : r.Sound) (job : Job) :
    r.Serves w (w.Follows (job.Names w r)) ([], Engine.work w r job) := by
  cases job with
  | initialise =>
    exact ((Registry.applyToMany_serves sound true w.population).imp fun _ => .asked).silent
  | applyOne id => exact (Registry.applyToOne_serves sound id).followUp
  | applyConstraint ref =>
    simp only [Engine.work]
    cases current : r.current? ref with
    | none => exact .refl sound
    | some c => exact (Registry.applyConstraint_serves sound current w.population).followUp
  | reapply =>
    have cleared : r.clearHistory.Sound := sound.of_eq rfl rfl rfl
    have served := (Registry.applyToMany_serves (w := w) cleared false w.population).followUp
    exact ⟨served.progress, served.touched, served.constraints, served.sound⟩
  | staged batch =>
    refine ((applyStaged_serves _ sound).imp ?_).followUp
    rintro id ⟨ref, mem⟩
    obtain ⟨⟨id', refs⟩, mem, entry⟩ := List.mem_flatMap.1 mem
    obtain ⟨ref', -, same⟩ := List.mem_map.1 entry
    cases same
    exact ⟨refs, mem⟩
  | setProcessing enabled => exact (Registry.setProcessing_serves sound enabled).followUp

end Engine

/-- One registry differs from another neither in constraints nor in memberships nor in what is held
back. -/
structure Registry.Unmoved (r r' : Registry) : Prop where
  constraints : r'.constraints = r.constraints
  serial : r'.nextSerial = r.nextSerial
  held : r'.gate.held = r.gate.held
  rolls : r'.store.rolls = r.store.rolls
  log : r'.store.log = r.store.log

namespace Registry

variable {r r' r'' : Registry}

theorem Unmoved.refl (r : Registry) : r.Unmoved r :=
  ⟨rfl, rfl, rfl, rfl, rfl⟩

theorem Unmoved.trans (first : r.Unmoved r') (second : r'.Unmoved r'') : r.Unmoved r'' where
  constraints := second.constraints.trans first.constraints
  serial := second.serial.trans first.serial
  held := second.held.trans first.held
  rolls := second.rolls.trans first.rolls
  log := second.log.trans first.log

theorem Unmoved.sound (h : r.Unmoved r') (sound : r.Sound) : r'.Sound :=
  sound.of_eq h.constraints h.serial h.held

theorem forgetOutcomes_unmoved (r : Registry) (c : Constraint) (id : SubjectId) :
    r.Unmoved (r.forgetOutcomes c id) := by
  unfold forgetOutcomes
  split <;> exact ⟨rfl, rfl, rfl, rfl, rfl⟩

/-- Constraints may go, and those that stay may be described anew. -/
theorem Sound.of_fewer (sound : r.Sound)
    (old : ∀ tag c, r'.constraints.get? tag = some c → ∃ d, r.constraints.get? tag = some d ∧
      c.tag = d.tag ∧ c.serial = d.serial ∧ c.isReady = d.isReady)
    (serial : r'.nextSerial = r.nextSerial) (held : r'.gate.held = r.gate.held) : r'.Sound where
  filed tag c found := by
    obtain ⟨d, found, same, -, -⟩ := old tag c found
    exact same.trans (sound.filed tag d found)
  serials tag c found := by
    obtain ⟨d, found, -, same, -⟩ := old tag c found
    rw [same, serial]
    exact sound.serials tag d found
  held request mem := by
    rw [serial]
    exact sound.held request (held ▸ mem)
  ready request mem c current := by
    obtain ⟨found, number⟩ := current?_eq_some.1 current
    obtain ⟨d, found, -, same, ready⟩ := old _ c found
    rw [ready]
    exact sound.ready request (held ▸ mem) d (current?_eq_some.2 ⟨found, same.symm.trans number⟩)

/-- A new constraint has a serial number that no request refers to yet. -/
theorem Sound.insert (sound : r.Sound) {tag : TagId} {c : Constraint} (own : c.tag = tag)
    (new : c.serial = r.nextSerial)
    (constraints : r'.constraints = r.constraints.insert tag c)
    (serial : r'.nextSerial = r.nextSerial + 1) (held : r'.gate.held = r.gate.held) :
    r'.Sound := by
  have cases' {other : TagId} {d : Constraint} (found : r'.constraints.get? other = some d) :
      tag = other ∧ c = d ∨ r.constraints.get? other = some d := by
    rw [constraints, Dict.get?_insert] at found
    split at found
    · next same => exact .inl ⟨same, Option.some.inj found⟩
    · exact .inr found
  refine ⟨fun other d found => ?_, fun other d found => ?_, fun request mem => ?_,
    fun request mem d current => ?_⟩
  · rcases cases' found with ⟨rfl, rfl⟩ | found
    · exact own
    · exact sound.filed other d found
  · rcases cases' found with ⟨rfl, rfl⟩ | found
    · omega
    · have := sound.serials other d found
      omega
  · have := sound.held request (held ▸ mem)
    omega
  · obtain ⟨found, number⟩ := current?_eq_some.1 current
    rcases cases' found with ⟨-, rfl⟩ | found
    · have := sound.held request (held ▸ mem)
      omega
    · exact sound.ready request (held ▸ mem) d (current?_eq_some.2 ⟨found, number⟩)

theorem removeConstraint_sound (sound : r.Sound) (tag : TagId) :
    (r.removeConstraint tag).2.Sound := by
  refine sound.of_fewer (fun other c found => ?_) rfl rfl
  change (r.constraints.erase tag).get? other = some c at found
  rw [Dict.get?_erase] at found
  split at found
  · cases found
  · exact ⟨c, found, rfl, rfl, rfl⟩

theorem tagMetadataChanged_sound (sound : r.Sound) (tag : TagId) :
    (r.tagMetadataChanged tag).Sound := by
  refine sound.of_fewer (fun other c found => ?_) rfl rfl
  change (r.constraints.modify tag (·.refresh r.store)).get? other = some c at found
  rw [Dict.get?_modify] at found
  split at found
  · obtain ⟨d, old, rfl⟩ := Option.map_eq_some_iff.1 found
    exact ⟨d, old, rfl, rfl, rfl⟩
  · exact ⟨c, found, rfl, rfl, rfl⟩

/-- Installing a constraint keeps the registry sound and changes no membership. -/
theorem setConstraint_sound (sound : r.Sound) (w : World) (tag : TagId) (text options : String)
    (enabled : Bool) :
    let r' := (r.setConstraint w tag text options enabled).2
    r'.Sound ∧ r'.store.rolls = r.store.rolls ∧ r'.store.log = r.store.log := by
  have setting := setConstraint_setting r w tag text options enabled
  generalize r.setConstraint w tag text options enabled = result at setting ⊢
  cases setting with
  | dropped => exact ⟨removeConstraint_sound sound tag, rfl, rfl⟩
  | same => exact ⟨sound, rfl, rfl⟩
  | installed _ _ made services =>
    have identity := made ▸ build_identity ..
    have rolls := made ▸ build_rolls ..
    have log := made ▸ build_log ..
    refine ⟨sound.insert (congrArg ConstraintRef.tag identity)
      (congrArg ConstraintRef.serial identity) rfl rfl rfl, ?_, ?_⟩
    · simp only [store, services]
      exact rolls
    · simp only [store, services]
      exact log

end Registry

namespace Engine

variable {w : World} {e : Engine}

theorem checkActive_unmoved (e : Engine) : e.registry.Unmoved e.checkActive.registry := by
  unfold checkActive
  simp only []
  split
  · exact .refl _
  · split <;> exact ⟨rfl, rfl, rfl, rfl, rfl⟩

/-- The registry after a call is sound, and the call changes no membership. -/
structure Calm (e e' : Engine) : Prop where
  sound : e'.registry.Sound
  rolls : e'.registry.store.rolls = e.registry.store.rolls
  log : e'.registry.store.log = e.registry.store.log

theorem Calm.of_unmoved {e' : Engine} (sound : e.registry.Sound)
    (h : e.registry.Unmoved e'.registry) : e.Calm e' :=
  ⟨h.sound sound, h.rolls, h.log⟩

theorem Calm.of_eq {e' : Engine} (sound : e.registry.Sound) (h : e'.registry = e.registry) :
    e.Calm e' :=
  .of_unmoved sound (h ▸ .refl _)

theorem Calm.trans_unmoved {e' e'' : Engine} (first : e.Calm e')
    (second : e'.registry.Unmoved e''.registry) : e.Calm e'' where
  sound := second.sound first.sound
  rolls := second.rolls.trans first.rolls
  log := second.log.trans first.log

theorem setConstraint_calm (sound : e.registry.Sound) (w : World) (tag : TagId)
    (text options : String) (enabled : Bool) :
    e.Calm (e.setConstraint w tag text options enabled).2 := by
  obtain ⟨after, rolls, log⟩ := Registry.setConstraint_sound sound w tag text options enabled
  unfold setConstraint
  generalize e.registry.setConstraint w tag text options enabled = result at after rolls log ⊢
  obtain ⟨installed, registry⟩ := result
  have first : e.Calm { e with registry } := ⟨after, rolls, log⟩
  cases installed with
  | none => exact first.trans_unmoved (checkActive_unmoved _)
  | some c =>
    refine first.trans_unmoved (.trans ?_ (checkActive_unmoved _))
    simp only []
    split <;> exact .refl _

theorem removeConstraint_calm (sound : e.registry.Sound) (tag : TagId) :
    e.Calm (e.removeConstraint tag).2 := by
  have first : e.Calm { e with registry := (e.registry.removeConstraint tag).2 } :=
    ⟨Registry.removeConstraint_sound sound tag, rfl, rfl⟩
  exact first.trans_unmoved (checkActive_unmoved _)

theorem subjectDestroyed_unmoved (e : Engine) (id : SubjectId) :
    e.registry.Unmoved (e.subjectDestroyed id).registry := by
  have forgotten : e.registry.Unmoved (e.registry.forgetSubject id) := ⟨rfl, rfl, rfl, rfl, rfl⟩
  exact List.foldlRecOn (e.registry.forgetSubject id).snapshot _ forgotten fun _ before c _ =>
    before.trans (Registry.forgetOutcomes_unmoved _ c id)

/-- No event but the running of a job changes a membership. -/
theorem perform_calm (sound : e.registry.Sound) (w : World) (event : Event)
    (work : event ≠ .work) (inside : event.isOutside = false) : e.Calm (e.perform w event) := by
  cases event with
  | setConstraint tag text options enabled => exact setConstraint_calm sound w tag text options enabled
  | removeConstraint tag => exact removeConstraint_calm sound tag
  | tagRemoved tag => exact removeConstraint_calm sound tag
  | tagMetadataChanged tag => exact ⟨Registry.tagMetadataChanged_sound sound tag, rfl, rfl⟩
  | configChanged => exact .of_unmoved sound ⟨rfl, rfl, rfl, rfl, rfl⟩
  | initialise =>
    refine .of_eq sound ?_
    simp only [perform, initialise]
    split <;> rfl
  | subjectCreated id =>
    refine .of_eq sound ?_
    simp only [perform, subjectCreated]
    split <;> rfl
  | subjectStateChanged id =>
    refine .of_eq sound ?_
    simp only [perform, subjectStateChanged]
    split
    · split <;> rfl
    · rfl
  | subjectDestroyed id => exact .of_unmoved sound (subjectDestroyed_unmoved e id)
  | membershipChanged id =>
    refine .of_eq sound ?_
    simp only [perform, membershipChanged]
    split <;> rfl
  | setProcessing enabled => exact .of_eq sound rfl
  | tick =>
    refine .of_eq sound ?_
    simp only [perform, tick]
    split <;> rfl
  | stop => exact .of_unmoved sound ⟨rfl, rfl, rfl, rfl, rfl⟩
  | dispatch =>
    refine .of_eq sound ?_
    simp only [perform, dispatch]
    split <;> rfl
  | work => contradiction
  | outside f => cases inside

/-- The subjects that an event names: those of the first waiting job, if that job is run, and those
that following up its changes leads to. -/
def Names (e : Engine) (w : World) : Event → SubjectId → Prop
  | .work => w.Follows fun id => ∃ job queue, e.queue = job :: queue ∧ job.Names w e.registry id
  | _ => fun _ => False

/-- One event makes justified changes, and none at all if no job is run. -/
theorem perform_progress (sound : e.registry.Sound) (w : World) (event : Event)
    (inside : event.isOutside = false) :
    (∃ l, Progress w.now (Change.Justified w e.registry.constraints (e.Names w event))
      e.registry.ledger.services l (e.perform w event).registry.ledger.services) ∧
      (event = .work → (e.perform w event).registry.constraints = e.registry.constraints) ∧
      (e.perform w event).registry.Sound := by
  by_cases work : event = .work
  · subst work
    simp only [perform, runNext]
    cases queued : e.queue with
    | nil => exact ⟨⟨[], .refl _⟩, fun _ => rfl, sound⟩
    | cons job queue =>
      have served := work_serves (w := w) sound job
      have named (id : SubjectId) (h : w.Follows (job.Names w e.registry) id) :
          e.Names w .work id := by
        induction h with
        | asked h => exact .asked ⟨job, queue, queued, h⟩
        | touched _ found ih => exact .touched ih found
      exact ⟨(served.imp named).progress, fun _ => served.constraints, served.sound⟩
  · have calm := perform_calm sound w event work inside
    exact ⟨⟨[], .quiet (.refl _) calm.rolls calm.log⟩, fun h => absurd h work, calm.sound⟩

theorem Fresh.sound (fresh : e.Fresh) : e.registry.Sound where
  filed tag c found := by
    rw [fresh.constraints] at found
    cases found
  serials tag c found := by
    rw [fresh.constraints] at found
    cases found
  held request mem := by
    rw [fresh.held] at mem
    cases mem
  ready request mem := by
    rw [fresh.held] at mem
    cases mem

theorem run_sound (sound : e.registry.Sound) (history : List (World × Event)) :
    (e.run history).registry.Sound := by
  induction history generalizing e with
  | nil => exact sound
  | cons step history ih =>
    obtain ⟨w, event⟩ := step
    refine ih ?_
    cases outside : event.isOutside with
    | false => exact (perform_progress sound w event outside).2.2
    | true =>
      cases event with
      | outside f => exact sound.of_eq rfl rfl rfl
      | _ => cases outside

/-- A world with one subject of twenty bytes. -/
def loneSubject : World where
  subjects := .ofList [(⟨7⟩, ⟨{ id := ⟨7⟩, size := 20 }, false⟩)]
  population := [⟨7⟩]

/-- A tag and a constraint for it are made, and the first assignment is asked for. -/
def firstAssignment : List (World × Event) :=
  [(loneSubject, .outside (·.insertTag { id := ⟨1⟩, name := "Big" })),
    (loneSubject, .setConstraint ⟨1⟩ "size > 10" "" true), (loneSubject, .initialise)]

end Engine

end TagRules
