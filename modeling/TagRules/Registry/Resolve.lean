import TagRules.Eval.Evaluate
import TagRules.Registry.Activity
import TagRules.Registry.Gate

/-!
# Deciding membership

One constraint is decided for one subject: a subject that satisfies it is added to its tag, unless
that was done too recently, and one that no longer does is removed. Where the tag has side effects
and the expression tests other constrained tags, these are decided first for the same subject. The
tags whose dependencies are being decided are noted, so that mutual references come to an end.
-/

namespace TagRules

/-- What deciding reads and never changes. -/
structure Rulebook where
  /-- The constraint of each tag. -/
  constraints : Dict TagId Constraint := {}
  /-- The least time between two additions of a subject to a tag, in nanoseconds. -/
  cooldown : Nat := 1000000000
  /-- Nothing may be changed any more. -/
  stopping : Bool := false

/-- When a subject was last added to a tag automatically, on the steady clock. -/
abbrev AddHistory := Dict TagId (Dict SubjectId Nat)

/-- When a subject was last added to a tag automatically. -/
def AddHistory.last? (h : AddHistory) (tag : TagId) (subject : SubjectId) : Option Nat :=
  (h.get? tag).bind (·.get? subject)

/-- Note an addition. -/
def AddHistory.note (h : AddHistory) (tag : TagId) (subject : SubjectId) (ticks : Nat) :
    AddHistory :=
  h.insert tag (((h.get? tag).getD {}).insert subject ticks)

/-- What deciding may change. -/
structure Ledger where
  services : Services := {}
  history : AddHistory := {}
  /-- The activity of each constraint by its serial number. -/
  activity : Dict Nat Activity := {}
deriving Inhabited

/-- The state of a pass: the ledger, the tags whose dependencies are being decided for the current
subject, and the subjects whose membership was changed, newest first. -/
structure PassState where
  ledger : Ledger
  visited : List TagId := []
  touched : List SubjectId := []

/-- A step of a pass. -/
abbrev Pass := StateM PassState

namespace Pass

/-- Change the ledger. -/
def modifyLedger (f : Ledger → Ledger) : Pass Unit :=
  modify fun s => { s with ledger := f s.ledger }

/-- Note that the membership of a subject was changed. -/
def touch (subject : SubjectId) : Pass Unit :=
  modify fun s => { s with touched := subject :: s.touched }

/-- The subject is in the tag. -/
def isTagged (tag : TagId) (subject : SubjectId) : Pass Bool := do
  let s ← get
  return s.ledger.services.store.isTagged tag subject

/-- Evaluate a constraint for a subject with its current tags. A constraint without expression does
not hold. -/
def test (w : World) (c : Constraint) (r : SubjectRecord) : Pass Bool := do
  match c.expr? with
  | none => return false
  | some e =>
    modifyLedger fun l => { l with
      activity := l.activity.modify c.serial fun a => a.record w.ticks }
    let s ← get
    let services := s.ledger.services
    let scene : Scene := ⟨w, c.tag, r, services.store.tagsOf r.id⟩
    let (holds, after) := (e.holds scene).run { services }
    modifyLedger fun l => { l with services := after.services }
    return holds

/-- Remove a subject from the tag of a constraint, where that is allowed and it is in it. -/
def remove (book : Rulebook) (c : Constraint) (subject : SubjectId) : Pass Unit := do
  if c.options.autoRemove && (← isTagged c.tag subject) && !book.stopping then
    modifyLedger fun l => { l with
      services := l.services.mapStore (·.remove c.tag subject) }
    touch subject

/-- Add a subject to the tag of a constraint, unless it was added too recently. -/
def add (w : World) (book : Rulebook) (c : Constraint) (subject : SubjectId) : Pass Unit := do
  if book.stopping then return
  let s ← get
  let recent : Bool :=
    match s.ledger.history.last? c.tag subject with
    | some last => w.ticks - last < book.cooldown
    | none => false
  if recent then return
  modifyLedger fun l => { l with
    history := l.history.note c.tag subject w.ticks
    services := l.services.mapStore (·.add w.now c.tag subject) }
  touch subject

/-- The constraints that a constraint depends on and that can be applied. -/
def dependencies (book : Rulebook) (c : Constraint) : List Constraint :=
  (c.dependsOn.filterMap book.constraints.get?).filter (·.isReady)

/-- Decide a constraint for a subject, with dependencies first if asked to. Dependencies are
followed as deep as `depth`; a depth of one more than the number of constraints is enough to
follow all. -/
def resolve (w : World) (book : Rulebook) : Nat → Bool → Constraint → SubjectRecord → Pass Unit
  | depth, check, c, r => do
    let s ← get
    if check && s.visited.contains c.tag then return
    if !(← test w c r) then remove book c r.id
    else if !c.options.autoAdd || (← isTagged c.tag r.id) then return
    else
      let deps := if check && c.mustCheck then dependencies book c else []
      match depth, deps with
      | depth + 1, d :: ds => do
        modify fun s => { s with visited := c.tag :: s.visited }
        (d :: ds).forM fun dep => resolve w book depth true dep r
        resolve w book depth false c r
      | _, _ => add w book c r.id

/-- The depth that is enough for a rulebook. -/
def fullDepth (book : Rulebook) : Nat :=
  book.constraints.size + 1

/-- Decide a constraint for several subjects, each from a clean slate. Subjects that are gone are
left out, and nothing is decided once everything is stopping. -/
def decideEach (w : World) (book : Rulebook) (c : Constraint) (check : Bool)
    (subjects : List SubjectId) : Pass Unit :=
  subjects.forM fun id =>
    match w.subjects.get? id with
    | none => pure ()
    | some subject =>
      if book.stopping || subject.destroyed then pure ()
      else do
        modify fun s => { s with visited := [] }
        resolve w book (fullDepth book) check c subject.record

end Pass

end TagRules
