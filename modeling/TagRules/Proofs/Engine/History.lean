import TagRules.Engine.Basic

/-!
# Histories of an engine

The life of an engine as a sequence of events. Calls, the running of one waiting job and changes of
the tag store from outside come in any order, each in a world of its own: time passes, and subjects
come and go between any two events. Flushing is no event of its own, as it is a dispatch and then
the waiting jobs (`Engine.flush_eq_run`).
-/

namespace TagRules

namespace Engine

/-- What can happen to an engine. -/
inductive Event where
  | setConstraint (tag : TagId) (text options : String) (enabled : Bool)
  | removeConstraint (tag : TagId)
  | tagRemoved (tag : TagId)
  | tagMetadataChanged (tag : TagId)
  | configChanged
  | initialise
  | subjectCreated (id : SubjectId)
  | subjectStateChanged (id : SubjectId)
  | subjectDestroyed (id : SubjectId)
  | membershipChanged (id : SubjectId)
  | setProcessing (enabled : Bool)
  | tick
  | stop
  /-- The staged state changes are enqueued. -/
  | dispatch
  /-- The first waiting job runs. -/
  | work
  /-- Somebody else changes tags or members. -/
  | outside (f : TagStore → TagStore)

/-- The event comes from outside and changes the tag store directly. -/
def Event.isOutside : Event → Bool
  | .outside _ => true
  | _ => false

/-- The engine after an event. -/
def perform (e : Engine) (w : World) : Event → Engine
  | .setConstraint tag text options enabled => (e.setConstraint w tag text options enabled).2
  | .removeConstraint tag => (e.removeConstraint tag).2
  | .tagRemoved tag => e.tagRemoved tag
  | .tagMetadataChanged tag => e.tagMetadataChanged tag
  | .configChanged => e.configChanged
  | .initialise => e.initialise
  | .subjectCreated id => e.subjectCreated id
  | .subjectStateChanged id => e.subjectStateChanged id
  | .subjectDestroyed id => e.subjectDestroyed id
  | .membershipChanged id => e.membershipChanged id
  | .setProcessing enabled => e.setProcessing enabled
  | .tick => e.tick
  | .stop => e.stop
  | .dispatch => e.dispatch
  | .work => e.runNext w
  | .outside f => { e with registry := e.registry.mapStore f }

/-- The engine after a history. -/
def run (e : Engine) (history : List (World × Event)) : Engine :=
  history.foldl (fun e step => e.perform step.1 step.2) e

/-- An engine as it is made: no constraint was installed yet, and nothing is held back. -/
structure Fresh (e : Engine) : Prop where
  constraints : e.registry.constraints = {}
  held : e.registry.gate.held = []

/-- Running all waiting jobs runs the first one as often as there are jobs. -/
theorem drain_eq_run (e : Engine) (w : World) :
    e.drain w = e.run (List.replicate e.queue.length (w, .work)) := by
  obtain ⟨registry, queue, staged, active, initialised⟩ := e
  induction queue generalizing registry with
  | nil => rfl
  | cons job queue ih => exact ih (Engine.work w registry job)

/-- Flushing is a dispatch and then all waiting jobs. -/
theorem flush_eq_run (e : Engine) (w : World) :
    e.flush w = e.run ((w, .dispatch) :: List.replicate e.dispatch.queue.length (w, .work)) :=
  drain_eq_run e.dispatch w

end Engine

end TagRules
