import TagRules.Registry.Resolve

/-!
# The registry

The registry holds one constraint per tag and applies them to subjects. Every operation that may
change membership returns the subjects whose membership it changed, in order and with repetitions,
so that the caller can treat them as changes in turn.
-/

namespace TagRules

/-- Constraints, the gate, and the state that passes change. -/
structure Registry where
  constraints : Dict TagId Constraint := {}
  ledger : Ledger := {}
  gate : Gate := {}
  /-- The least time between two additions of a subject to a tag, in nanoseconds. -/
  cooldown : Nat := 1000000000
  /-- The window of activity averages in seconds. -/
  activityWindow : Nat := 60
  /-- The first assignment of all subjects is done. -/
  initialDone : Bool := false
  /-- No membership may be changed any more. -/
  stopping : Bool := false
  /-- The serial number of the next constraint. -/
  nextSerial : Nat := 0
deriving Inhabited

namespace Registry

/-- The tag store. -/
def store (r : Registry) : TagStore :=
  r.ledger.services.store

/-- Change the shared state of evaluations. -/
def mapServices (r : Registry) (f : Services → Services) : Registry :=
  { r with ledger := { r.ledger with services := f r.ledger.services } }

/-- Change the tag store. -/
def mapStore (r : Registry) (f : TagStore → TagStore) : Registry :=
  r.mapServices (·.mapStore f)

/-- What passes read. -/
def rulebook (r : Registry) : Rulebook :=
  ⟨r.constraints, r.cooldown, r.stopping⟩

/-- The constraint of a tag. -/
def constraint? (r : Registry) (tag : TagId) : Option Constraint :=
  r.constraints.get? tag

/-- The constraint of a request, if it is still the one of its tag. -/
def current? (r : Registry) (ref : ConstraintRef) : Option Constraint :=
  (r.constraint? ref.tag).filter (·.serial == ref.serial)

/-- A constraint is still the one of its tag. -/
def isRegistered (r : Registry) (ref : ConstraintRef) : Bool :=
  (r.current? ref).isSome

/-- Take out the constraint of a tag and say whether there was one. -/
def removeConstraint (r : Registry) (tag : TagId) : Bool × Registry :=
  (r.constraints.contains tag, { r with constraints := r.constraints.erase tag })

/-- Install, replace or drop the constraint of a tag. An empty text drops it, and the definition
that is installed already changes nothing. Returns the constraint if one was installed. -/
def setConstraint (r : Registry) (w : World) (tag : TagId) (text options : String)
    (enabled : Bool) : Option Constraint × Registry :=
  let text := Text.trimmed text
  let options := Text.trimmed options
  if text.isEmpty then (none, (r.removeConstraint tag).2)
  else if ((r.constraint? tag).map (·.hasDefinition text options enabled)).getD false then (none, r)
  else
    let (c, store) := Constraint.build r.store r.nextSerial tag text options enabled
    let r := r.mapStore fun _ => store
    (some c, { r with
      constraints := r.constraints.insert tag c
      nextSerial := r.nextSerial + 1
      ledger := { r.ledger with
        activity := r.ledger.activity.insert c.serial (.begin r.activityWindow w.ticks) } })

/-- Visit a tag: the constraints it depends on come first, then its own. A tag without constraint,
or one that was visited, adds nothing. The constraints are collected newest first. -/
def visit (constraints : Dict TagId Constraint) :
    Nat → List TagId × List Constraint → TagId → List TagId × List Constraint
  | 0, state, _ => state
  | fuel + 1, (seen, ordered), tag =>
    match constraints.get? tag with
    | none => (seen, ordered)
    | some c =>
      if seen.contains tag then (seen, ordered)
      else
        let (seen, ordered) :=
          c.dependsOn.foldl (visit constraints fuel) (tag :: seen, ordered)
        (seen, c :: ordered)

/-- All constraints, each after the ones it depends on. -/
def snapshot (r : Registry) : List Constraint :=
  (r.constraints.keys.foldl (visit r.constraints (r.constraints.size + 1)) ([], [])).2.reverse

/-- The constraints whose outcome can change with the run state of a subject. -/
def stateDependent (r : Registry) : List Constraint :=
  r.snapshot.filter (·.dependsOnState)

/-- The tags that the constraint of a tag depends on. -/
def dependsOnTags (r : Registry) (tag : TagId) : List TagId :=
  ((r.constraint? tag).map (·.dependsOn)).getD []

/-- The activity of a constraint as text, with its dependencies if asked for. -/
def statusOf (r : Registry) (w : World) (c : Constraint) (verbose : Bool) : String :=
  let activity := (r.ledger.activity.get? c.serial).getD (.begin r.activityWindow w.ticks)
  let more :=
    if verbose then
      ", DS=" ++ (if c.dependsOnState then "true" else "false") ++ ", DL=" ++ c.level.text
    else ""
  activity.rate w.ticks ++ more

/-- The activity of the constraint of a tag as text. -/
def status? (r : Registry) (w : World) (tag : TagId) (verbose : Bool) : Option String :=
  (r.constraint? tag).map (r.statusOf w · verbose)

/-- The descriptor of a tag has changed. -/
def tagMetadataChanged (r : Registry) (tag : TagId) : Registry :=
  { r with constraints := r.constraints.modify tag (·.refresh r.store) }

/-- Refuse every further change of membership. -/
def stop (r : Registry) : Registry :=
  { r with stopping := true }

/-- Forget when subjects were added. -/
def clearHistory (r : Registry) : Registry :=
  { r with ledger := { r.ledger with history := {} } }

/-- Drop what is remembered of a subject. -/
def forgetSubject (r : Registry) (id : SubjectId) : Registry :=
  r.mapServices (·.forgetSubject id)

/-- Drop the outcomes of the patterns of a constraint for a subject. -/
def forgetOutcomes (r : Registry) (c : Constraint) (id : SubjectId) : Registry :=
  match c.expr? with
  | none => r
  | some e => r.mapServices (·.forgetOutcomes id e.patterns)

/-- Run a pass and return the subjects that were touched, oldest first. -/
def runPass (r : Registry) (pass : Pass Unit) : List SubjectId × Registry :=
  let s := (StateT.run pass { ledger := r.ledger }).2
  (s.touched.reverse, { r with ledger := s.ledger })

/-- Apply a constraint to some subjects, or hold the request back while processing is paused. -/
def apply (r : Registry) (w : World) (c : Constraint) (check : Bool) (subjects : List SubjectId) :
    List SubjectId × Registry :=
  if !c.isReady || r.stopping then ([], r)
  else if r.gate.isOpen then r.runPass (Pass.decideEach w r.rulebook c check subjects)
  else ([], { r with gate := r.gate.hold ⟨c.ref, subjects, check⟩ })

/-- Apply several constraints in turn. -/
def applyEach (r : Registry) (w : World) (check : Bool) (subjects : List SubjectId) :
    List Constraint → List SubjectId × Registry
  | [] => ([], r)
  | c :: cs =>
    let (first, r) := r.apply w c check subjects
    let (rest, r) := r.applyEach w check subjects cs
    (first ++ rest, r)

/-- Apply all constraints to one subject. -/
def applyToOne (r : Registry) (w : World) (id : SubjectId) : List SubjectId × Registry :=
  r.applyEach w true [id] r.snapshot

/-- Apply all constraints to several subjects. The first time all are assigned takes two sweeps: one
that leaves dependencies alone, and one that settles them. -/
def applyToMany (r : Registry) (w : World) (initial : Bool) (subjects : List SubjectId) :
    List SubjectId × Registry :=
  let constraints := r.snapshot
  let (first, r) := r.applyEach w (!initial) subjects constraints
  if initial then
    let (second, r) := { r with initialDone := true }.applyEach w true subjects constraints
    (first ++ second, r)
  else (first, r)

/-- Apply one constraint to several subjects. -/
def applyConstraint (r : Registry) (w : World) (c : Constraint) (subjects : List SubjectId) :
    List SubjectId × Registry :=
  r.apply w c true subjects

/-- Run held requests in order. A request whose constraint is no longer the one of its tag is
dropped. -/
def runHeld (r : Registry) (w : World) : List Request → List SubjectId × Registry
  | [] => ([], r)
  | request :: requests =>
    let (first, r) :=
      match r.current? request.constraint with
      | none => ([], r)
      | some c =>
        r.runPass (Pass.decideEach w r.rulebook c request.checkDependencies request.subjects)
    let (rest, r) := r.runHeld w requests
    (first ++ rest, r)

/-- Pause processing. -/
def pause (r : Registry) : Registry :=
  { r with gate := r.gate.pause }

/-- Lift a pause; lifting the last one runs what was held back. -/
def resume (r : Registry) (w : World) : List SubjectId × Registry :=
  let (requests, gate) := r.gate.resume
  { r with gate }.runHeld w requests

/-- Pause processing or lift a pause. -/
def setProcessing (r : Registry) (w : World) (enabled : Bool) : List SubjectId × Registry :=
  if enabled then r.resume w else ([], r.pause)

end Registry

end TagRules
