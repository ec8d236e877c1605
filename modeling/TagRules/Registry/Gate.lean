import TagRules.Registry.Constraint

/-!
# The gate

The gate holds back requests while processing is paused. Pauses nest; lifting the last one hands
back what was held, in the order of submission.
-/

namespace TagRules

/-- A request to apply a constraint to some subjects. -/
structure Request where
  constraint : ConstraintRef
  subjects : List SubjectId
  /-- Settle the constraints that this one depends on first. -/
  checkDependencies : Bool
deriving DecidableEq, Repr

/-- The number of pauses and the requests that were held back, oldest first. -/
structure Gate where
  pauses : Nat := 0
  held : List Request := []
deriving DecidableEq, Repr, Inhabited

namespace Gate

/-- No pause is outstanding. -/
def isOpen (g : Gate) : Bool :=
  g.pauses = 0

/-- Begin a pause. -/
def pause (g : Gate) : Gate :=
  { g with pauses := g.pauses + 1 }

/-- Lift a pause and return the requests to run now. Without a pause nothing happens. -/
def resume (g : Gate) : List Request × Gate :=
  match g.pauses with
  | 0 => ([], g)
  | 1 => (g.held, {})
  | n + 2 => ([], { g with pauses := n + 1 })

/-- Hold back a request. -/
def hold (g : Gate) (r : Request) : Gate :=
  { g with held := g.held ++ [r] }

@[simp] theorem isOpen_pause (g : Gate) : g.pause.isOpen = false := rfl

@[simp] theorem held_pause (g : Gate) : g.pause.held = g.held := rfl

@[simp] theorem resume_pause_of_isOpen {g : Gate} (h : g.isOpen = true) :
    g.pause.resume = (g.held, {}) := by
  have : g.pauses = 0 := by simpa [isOpen] using h
  simp [pause, resume, this]

end Gate

end TagRules
