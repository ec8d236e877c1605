import TagRules.Engine.FollowUp

/-!
# The engine

The engine ties a registry to the events that should run constraints again. Calls only enqueue jobs;
the jobs run one at a time in order of submission, so that membership is never changed from two
places at once. State changes of subjects are staged, the last one of a subject counts, and wait
until the engine is flushed.

The engine is idle while no constraint is registered and active otherwise; only an active one reacts
to events.
-/

namespace TagRules

/-- A piece of work. -/
inductive Job where
  /-- The first assignment of the whole population. -/
  | initialise
  | applyOne (subject : SubjectId)
  | applyConstraint (constraint : ConstraintRef)
  /-- The periodic pass over the whole population. -/
  | reapply
  /-- Constraints to apply to subjects whose run state changed. -/
  | staged (batch : List (SubjectId × List ConstraintRef))
  | setProcessing (enabled : Bool)
deriving DecidableEq, Repr

/-- The registry, the waiting jobs and the staged state changes. -/
structure Engine where
  registry : Registry := {}
  /-- The waiting jobs, oldest first. -/
  queue : List Job := []
  staged : Dict SubjectId (List ConstraintRef) := {}
  /-- A constraint is registered, so the periodic pass is running. -/
  active : Bool := false
  initialised : Bool := false
deriving Inhabited

namespace Engine

/-- Apply the constraints of a batch that are still current, in turn. -/
def applyStaged (w : World) (r : Registry) :
    List (SubjectId × ConstraintRef) → List SubjectId × Registry
  | [] => ([], r)
  | (id, ref) :: rest =>
    let (first, r) :=
      match r.current? ref with
      | none => ([], r)
      | some c => r.applyConstraint w c [id]
    let (more, r) := applyStaged w r rest
    (first ++ more, r)

/-- Run a job and follow up its changes, except for the first assignment. -/
def work (w : World) (r : Registry) : Job → Registry
  | .initialise => (r.applyToMany w true w.population).2
  | .applyOne id =>
    let (touched, r) := r.applyToOne w id
    r.followUp w touched
  | .applyConstraint ref =>
    match r.current? ref with
    | none => r
    | some c =>
      let (touched, r) := r.applyConstraint w c w.population
      r.followUp w touched
  | .reapply =>
    let (touched, r) := r.clearHistory.applyToMany w false w.population
    r.followUp w touched
  | .staged batch =>
    let (touched, r) :=
      applyStaged w r (batch.flatMap fun (id, refs) => refs.map (id, ·))
    r.followUp w touched
  | .setProcessing enabled =>
    let (touched, r) := r.setProcessing w enabled
    r.followUp w touched

/-- Run the first waiting job. -/
def runNext (e : Engine) (w : World) : Engine :=
  match e.queue with
  | [] => e
  | job :: queue => { e with queue, registry := work w e.registry job }

/-- Run all waiting jobs. -/
def drain (e : Engine) (w : World) : Engine :=
  { e with queue := [], registry := e.queue.foldl (work w) e.registry }

/-- Enqueue a job. -/
def send (e : Engine) (job : Job) : Engine :=
  { e with queue := e.queue ++ [job] }

/-- Events are accepted. -/
def acceptsEvents (e : Engine) : Bool :=
  e.initialised && e.active && !e.registry.stopping

/-- Become active or idle as constraints come and go. An engine that becomes idle forgets when
subjects were added. -/
def checkActive (e : Engine) : Engine :=
  let wanted := !e.registry.constraints.isEmpty && !e.registry.stopping
  if wanted then { e with active := true }
  else if e.active then { e with active := false, registry := e.registry.clearHistory }
  else e

/-- Ask for the first assignment; until then events of subjects are ignored. -/
def initialise (e : Engine) : Engine :=
  if e.initialised then e else { e with initialised := true }.send .initialise

/-- Install, replace or drop the constraint of a tag. Once initialised, a new constraint is applied
to the whole population. -/
def setConstraint (e : Engine) (w : World) (tag : TagId) (text options : String)
    (enabled : Bool) : Option Constraint × Engine :=
  let (installed, registry) := e.registry.setConstraint w tag text options enabled
  let e := { e with registry }
  let e :=
    match installed with
    | some c => if e.initialised then e.send (.applyConstraint c.ref) else e
    | none => e
  (installed, e.checkActive)

/-- Take out the constraint of a tag and say whether there was one. -/
def removeConstraint (e : Engine) (tag : TagId) : Bool × Engine :=
  let (removed, registry) := e.registry.removeConstraint tag
  (removed, { e with registry }.checkActive)

/-- A tag was deleted. -/
def tagRemoved (e : Engine) (tag : TagId) : Engine :=
  (e.removeConstraint tag).2

/-- The descriptor of a tag has changed. -/
def tagMetadataChanged (e : Engine) (tag : TagId) : Engine :=
  { e with registry := e.registry.tagMetadataChanged tag }

/-- Parameters of the application have changed. -/
def configChanged (e : Engine) : Engine :=
  { e with registry :=
      e.registry.mapServices fun s => { s with settings := s.settings.invalidate } }

/-- A subject came into being. -/
def subjectCreated (e : Engine) (id : SubjectId) : Engine :=
  if e.acceptsEvents then e.send (.applyOne id) else e

/-- The run state of a subject changed: stage the constraints that depend on it. -/
def subjectStateChanged (e : Engine) (id : SubjectId) : Engine :=
  if e.acceptsEvents then
    let refs := e.registry.stateDependent.map (·.ref)
    if refs.isEmpty then e else { e with staged := e.staged.insert id refs }
  else e

/-- A subject is gone: drop all that is remembered of it. -/
def subjectDestroyed (e : Engine) (id : SubjectId) : Engine :=
  let registry := e.registry.forgetSubject id
  { e with
    staged := e.staged.erase id
    registry := registry.snapshot.foldl (fun r c => r.forgetOutcomes c id) registry }

/-- A subject joined or left a tag otherwise. -/
def membershipChanged (e : Engine) (id : SubjectId) : Engine :=
  if e.registry.initialDone && e.active then e.send (.applyOne id) else e

/-- Pause processing or lift a pause. -/
def setProcessing (e : Engine) (enabled : Bool) : Engine :=
  e.send (.setProcessing enabled)

/-- The time of the periodic pass has come. -/
def tick (e : Engine) : Engine :=
  if e.active then e.send .reapply else e

/-- Refuse every further change of membership. -/
def stop (e : Engine) : Engine :=
  { e with registry := e.registry.stop, active := false }

/-- Enqueue the staged state changes. -/
def dispatch (e : Engine) : Engine :=
  if e.staged.isEmpty then e
  else { e with staged := {} }.send (.staged e.staged.entries)

/-- Run everything that waits or is staged. -/
def flush (e : Engine) (w : World) : Engine :=
  e.dispatch.drain w

end Engine

end TagRules
