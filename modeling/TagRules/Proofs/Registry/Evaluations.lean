import TagRules.Engine.FollowUp
import TagRules.Proofs.Registry.Deferral

/-!
# What a registry evaluates

The evaluations of a pass, of requests and of following up, in the order in which they are made.
Every evaluation is recorded as activity of its constraint, and nothing else is: these lists account
for the activity exactly (`Registry.evaluations_activity`, `Registry.followUp_activity`). A request
that is made while processing is not paused evaluates its constraint for all of its subjects that are
there (`Registry.mem_evaluations`).
-/

namespace TagRules

/-- What several steps yield, one after the other. -/
def yields (step : σ → α → List ε) (next : σ → α → σ) : σ → List α → List ε
  | _, [] => []
  | s, a :: as => step s a ++ yields step next (next s a) as

/-- What each of several steps accounts for, all of them account for. -/
theorem foldl_yields {step : σ → α → List ε} {next : σ → α → σ} {record : δ → ε → δ} (of : σ → δ)
    (as : List α) (s : σ)
    (each : ∀ a ∈ as, ∀ s, of (next s a) = (step s a).foldl record (of s)) :
    of (as.foldl next s) = (yields step next s as).foldl record (of s) := by
  induction as generalizing s with
  | nil => rfl
  | cons a as ih =>
    rw [List.foldl_cons, ih _ fun b mem => each b (List.mem_cons_of_mem _ mem),
      each a List.mem_cons_self, yields, List.foldl_append]

/-- What a step yields in every state is among what all steps yield. -/
theorem mem_yields {step : σ → α → List ε} {next : σ → α → σ} {as : List α} {a : α} {e : ε}
    (mem : a ∈ as) (always : ∀ s, e ∈ step s a) (s : σ) : e ∈ yields step next s as := by
  induction as generalizing s with
  | nil => cases mem
  | cons b as ih =>
    rcases List.mem_cons.1 mem with rfl | mem
    · exact List.mem_append_left _ (always s)
    · exact List.mem_append_right _ (ih mem (next s b))

/-- An evaluation of a constraint for a subject. -/
structure Evaluation where
  constraint : ConstraintRef
  subject : SubjectId
deriving DecidableEq, Repr

/-- An evaluation recorded as activity. -/
def Evaluation.record (w : World) (activity : Dict Nat Activity) (e : Evaluation) :
    Dict Nat Activity :=
  activity.modify e.constraint.serial (·.record w.ticks)

/-- A subject is there. -/
def World.Present (w : World) (id : SubjectId) : Prop :=
  ∃ subject, w.subjects.get? id = some subject ∧ subject.destroyed = false

namespace Pass

variable {w : World} {book : Rulebook} {c : Constraint} {id : SubjectId} {record : SubjectRecord}

/-- The evaluation of a constraint for a subject by itself. Without an expression there is none. -/
def evaluation (c : Constraint) (id : SubjectId) : List Evaluation :=
  if c.expr?.isSome then [⟨c.ref, id⟩] else []

/-- The evaluations that deciding makes. -/
def evaluated (w : World) (book : Rulebook) (id : SubjectId) (r : SubjectRecord) :
    Nat → Bool → Constraint → PassState → List Evaluation
  | depth, check, c, s =>
    if check && s.visited.contains c.tag then []
    else
      let t := tested w c r s
      evaluation c id ++
        if !c.truth w r s.ledger.services then []
        else if !c.options.autoAdd || t.ledger.services.store.isTagged c.tag r.id then []
        else
          match depth, firsts book check c with
          | depth + 1, d :: ds =>
            let start := { t with visited := c.tag :: t.visited }
            yields (fun s dep => evaluated w book id r depth true dep s)
                (fun s dep => decided w book r depth true dep s) start (d :: ds) ++
              evaluated w book id r depth false c
                ((d :: ds).foldl (fun s dep => decided w book r depth true dep s) start)
          | _, _ => []

/-- The evaluations that deciding makes for the subject of an identity. -/
def evaluatedFor (w : World) (book : Rulebook) (c : Constraint) (check : Bool) (s : PassState)
    (id : SubjectId) : List Evaluation :=
  match w.subjects.get? id with
  | none => []
  | some subject =>
    if book.stopping || subject.destroyed then []
    else evaluated w book id subject.record (fullDepth book) check c { s with visited := [] }

theorem tested_activity (w : World) (c : Constraint) (id : SubjectId) (r : SubjectRecord)
    (s : PassState) : (tested w c r s).ledger.activity =
      (evaluation c id).foldl (Evaluation.record w) s.ledger.activity := by
  unfold tested test evaluation
  cases h : c.expr? <;> rfl

theorem removed_activity (book : Rulebook) (c : Constraint) (id : SubjectId) (s : PassState) :
    (removed book c id s).ledger.activity = s.ledger.activity := by
  unfold removed
  split <;> rfl

theorem added_activity (w : World) (book : Rulebook) (c : Constraint) (id : SubjectId)
    (s : PassState) : (added w book c id s).ledger.activity = s.ledger.activity := by
  unfold added
  split <;> rfl

/-- Deciding records its evaluations as activity. -/
theorem decided_activity (w : World) (book : Rulebook) (id : SubjectId) (r : SubjectRecord)
    (depth : Nat) (check : Bool) (c : Constraint) (s : PassState) :
    (decided w book r depth check c s).ledger.activity =
      (evaluated w book id r depth check c s).foldl (Evaluation.record w) s.ledger.activity := by
  induction depth generalizing check c s with
  | zero =>
    unfold decided evaluated
    split
    · rfl
    · rw [List.foldl_append, ← tested_activity w c id r s]
      split
      · exact removed_activity ..
      · dsimp only
        split
        · rfl
        · exact added_activity ..
  | succ depth ih =>
    unfold decided evaluated
    split
    · rfl
    · rw [List.foldl_append, ← tested_activity w c id r s]
      split
      · exact removed_activity ..
      · dsimp only
        split
        · rfl
        · cases firsts book check c with
          | nil => exact added_activity ..
          | cons d ds =>
            simp only []
            rw [ih, List.foldl_append]
            congr 1
            exact foldl_yields (fun s : PassState => s.ledger.activity) (d :: ds) _
              fun dep _ s => ih true dep s

theorem decidedFor_activity (w : World) (book : Rulebook) (c : Constraint) (check : Bool)
    (s : PassState) (id : SubjectId) : (decidedFor w book c check s id).ledger.activity =
      (evaluatedFor w book c check s id).foldl (Evaluation.record w) s.ledger.activity := by
  unfold decidedFor evaluatedFor
  cases w.subjects.get? id with
  | none => rfl
  | some subject =>
    dsimp only
    split
    · rfl
    · exact decided_activity ..

/-- A constraint that is decided from a clean slate is evaluated. -/
theorem mem_evaluatedFor (running : book.stopping = false) (there : w.Present id)
    (ready : c.isReady = true) (check : Bool) (s : PassState) :
    ⟨c.ref, id⟩ ∈ evaluatedFor w book c check s id := by
  obtain ⟨subject, found, present⟩ := there
  have compiled : c.expr?.isSome = true := (Bool.and_eq_true_iff.1 ready).1
  unfold evaluatedFor
  rw [found]
  simp only [running, present, Bool.or_false, Bool.false_eq_true, if_false]
  unfold evaluated
  simp only [List.contains_nil, Bool.and_false, Bool.false_eq_true, if_false]
  apply List.mem_append_left
  rw [evaluation, if_pos compiled]
  exact List.mem_singleton_self _

end Pass

namespace Registry

variable {w : World} {r : Registry} {id : SubjectId}

/-- The evaluations of a request. -/
def evaluationsOf (r : Registry) (w : World) (a : Ask) : List Evaluation :=
  if !a.constraint.isReady || r.stopping then []
  else if r.gate.isOpen then
    yields (Pass.evaluatedFor w r.rulebook a.constraint a.check)
      (Pass.decidedFor w r.rulebook a.constraint a.check) { ledger := r.ledger } a.subjects
  else []

/-- The registry after a request. -/
def served (w : World) (r : Registry) (a : Ask) : Registry :=
  (r.apply w a.constraint a.check a.subjects).2

/-- The evaluations of several requests. -/
def evaluations (r : Registry) (w : World) (as : List Ask) : List Evaluation :=
  yields (evaluationsOf · w ·) (served w) r as

theorem serve_snd (r : Registry) (w : World) (as : List Ask) :
    (r.serve w as).2 = as.foldl (served w) r := by
  induction as generalizing r with
  | nil => rfl
  | cons a as ih => exact ih _

theorem served_activity (w : World) (r : Registry) (a : Ask) :
    (served w r a).ledger.activity =
      (r.evaluationsOf w a).foldl (Evaluation.record w) r.ledger.activity := by
  unfold served apply evaluationsOf
  split
  · rfl
  · split
    · simp only [runPass, Pass.decideEach_run]
      exact foldl_yields (fun s : PassState => s.ledger.activity) a.subjects _
        fun id _ s => Pass.decidedFor_activity w _ _ _ s id
    · rfl

/-- Requests record their evaluations as activity. -/
theorem evaluations_activity (r : Registry) (w : World) (as : List Ask) :
    (r.serve w as).2.ledger.activity =
      (r.evaluations w as).foldl (Evaluation.record w) r.ledger.activity := by
  rw [serve_snd]
  exact foldl_yields (fun r : Registry => r.ledger.activity) as r
    fun a _ r => served_activity w r a

/-- The evaluations that following up makes. -/
def followUpEvaluationsFrom (w : World) :
    Nat → List SubjectId → Dict SubjectId Nat → Registry → List Evaluation
  | 0, _, _, _ => []
  | _ + 1, [], _, _ => []
  | fuel + 1, id :: queue, runs, r =>
    if r.stopping then []
    else
      let count := (runs.get? id).getD 0 + 1
      let runs := runs.insert id count
      if maxFollowUps < count then followUpEvaluationsFrom w fuel queue runs r
      else
        r.evaluations w (r.asks (.applyToOne id)) ++
          followUpEvaluationsFrom w fuel (enqueue queue (r.applyToOne w id).1) runs
            (r.applyToOne w id).2

/-- The evaluations that following up some subjects makes. -/
def followUpEvaluations (r : Registry) (w : World) (touched : List SubjectId) : List Evaluation :=
  if touched.isEmpty || !r.initialDone then []
  else
    let queue := enqueue [] touched
    followUpEvaluationsFrom w ((maxFollowUps + 1) * queue.length) queue {} r

theorem followUpFrom_activity (w : World) (fuel : Nat) (queue : List SubjectId)
    (runs : Dict SubjectId Nat) (r : Registry) :
    (followUpFrom w fuel queue runs r).ledger.activity =
      (followUpEvaluationsFrom w fuel queue runs r).foldl (Evaluation.record w)
        r.ledger.activity := by
  induction fuel generalizing queue runs r with
  | zero => rfl
  | succ fuel ih =>
    cases queue with
    | nil => rfl
    | cons id queue =>
      unfold followUpFrom followUpEvaluationsFrom
      split
      · rfl
      · simp only []
        split
        · exact ih ..
        · rw [List.foldl_append, ← evaluations_activity, ← applyToOne_eq_serve]
          exact ih ..

/-- Following up records its evaluations as activity. -/
theorem followUp_activity (r : Registry) (w : World) (touched : List SubjectId) :
    (r.followUp w touched).ledger.activity =
      (r.followUpEvaluations w touched).foldl (Evaluation.record w) r.ledger.activity := by
  unfold followUp followUpEvaluations
  split
  · rfl
  · exact followUpFrom_activity ..

/-- What requests leave as it was: everything but the ledger and what is held back, and what was held
back stays so. -/
structure Kept (r r' : Registry) : Prop where
  constraints : r'.constraints = r.constraints
  serial : r'.nextSerial = r.nextSerial
  stopping : r'.stopping = r.stopping
  initialDone : r'.initialDone = r.initialDone
  pauses : r'.gate.pauses = r.gate.pauses
  held : ∀ request ∈ r.gate.held, request ∈ r'.gate.held
  /-- Nothing is held back without a pause. -/
  opened : r.gate.isOpen = true → r'.gate.held = r.gate.held

variable {r' r'' : Registry}

theorem Kept.refl (r : Registry) : r.Kept r :=
  ⟨rfl, rfl, rfl, rfl, rfl, fun _ h => h, fun _ => rfl⟩

theorem Kept.isOpen (h : r.Kept r') : r'.gate.isOpen = r.gate.isOpen := by
  simp only [Gate.isOpen, h.pauses]

theorem Kept.trans (first : r.Kept r') (second : r'.Kept r'') : r.Kept r'' where
  constraints := second.constraints.trans first.constraints
  serial := second.serial.trans first.serial
  stopping := second.stopping.trans first.stopping
  initialDone := second.initialDone.trans first.initialDone
  pauses := second.pauses.trans first.pauses
  held request mem := second.held request (first.held request mem)
  opened h := (second.opened (first.isOpen.trans h)).trans (first.opened h)

theorem served_kept (w : World) (r : Registry) (a : Ask) : r.Kept (served w r a) := by
  unfold served apply
  split
  · exact .refl r
  · split
    · exact ⟨rfl, rfl, rfl, rfl, rfl, fun _ h => h, fun _ => rfl⟩
    · next paused =>
      refine ⟨rfl, rfl, rfl, rfl, rfl, fun request mem => ?_, fun opened => absurd opened paused⟩
      exact List.mem_append_left _ mem

theorem serve_kept (r : Registry) (w : World) (as : List Ask) : r.Kept (r.serve w as).2 := by
  rw [serve_snd]
  exact List.foldlRecOn as (served w) (.refl r) fun r' kept a _ => kept.trans (served_kept w r' a)

theorem followUpFrom_kept (w : World) (fuel : Nat) (queue : List SubjectId)
    (runs : Dict SubjectId Nat) (r : Registry) : r.Kept (followUpFrom w fuel queue runs r) := by
  induction fuel generalizing queue runs r with
  | zero => exact .refl r
  | succ fuel ih =>
    cases queue with
    | nil => exact .refl r
    | cons id queue =>
      unfold followUpFrom
      split
      · exact .refl r
      · dsimp only
        split
        · exact ih ..
        · rw [applyToOne_eq_serve]
          exact (serve_kept r w _).trans (ih ..)

theorem followUp_kept (r : Registry) (w : World) (touched : List SubjectId) :
    r.Kept (r.followUp w touched) := by
  unfold followUp
  split
  · exact .refl r
  · exact followUpFrom_kept ..

/-- A request for a constraint and a subject is held back. -/
def Holds (r : Registry) (ref : ConstraintRef) (id : SubjectId) : Prop :=
  ∃ request ∈ r.gate.held, request.constraint = ref ∧ id ∈ request.subjects

theorem Holds.kept {ref : ConstraintRef} (h : r.Holds ref id) (kept : r.Kept r') :
    r'.Holds ref id := by
  obtain ⟨request, mem, asked⟩ := h
  exact ⟨request, kept.held request mem, asked⟩

/-- Without a pause, a request evaluates its constraint for each of its subjects that is there. -/
theorem mem_evaluationsOf {a : Ask} (ready : a.constraint.isReady = true)
    (running : r.stopping = false) (opened : r.gate.isOpen = true) (asked : id ∈ a.subjects)
    (there : w.Present id) : ⟨a.constraint.ref, id⟩ ∈ r.evaluationsOf w a := by
  simp only [evaluationsOf, ready, running, opened, Bool.not_true, Bool.or_self,
    Bool.false_eq_true, if_false, if_true]
  exact mem_yields asked (fun s => Pass.mem_evaluatedFor running there ready a.check s) _

/-- A request leads to an evaluation for each of its subjects that is there, or is held back. -/
theorem evaluates_or_holds {as : List Ask} {a : Ask} (mem : a ∈ as)
    (ready : a.constraint.isReady = true) (running : r.stopping = false) (asked : id ∈ a.subjects)
    (there : w.Present id) :
    ⟨a.constraint.ref, id⟩ ∈ r.evaluations w as ∨ (r.serve w as).2.Holds a.constraint.ref id := by
  induction as generalizing r with
  | nil => cases mem
  | cons b as ih =>
    rcases List.mem_cons.1 mem with rfl | mem
    · cases opened : r.gate.isOpen with
      | true =>
        exact .inl (List.mem_append_left _ (mem_evaluationsOf ready running opened asked there))
      | false =>
        have held : (served w r a).Holds a.constraint.ref id := by
          refine ⟨a.request, ?_, rfl, asked⟩
          simp only [served, apply, ready, running, opened, Bool.not_true, Bool.or_self,
            Bool.false_eq_true, if_false]
          exact List.mem_append_right _ List.mem_cons_self
        exact .inr (held.kept (serve_kept _ w as))
    · have kept := served_kept w r b
      rcases ih (r := served w r b) mem (kept.stopping.trans running) with evaluated | held
      · exact .inl (List.mem_append_right _ evaluated)
      · exact .inr held

/-- Without a pause, a request leads to an evaluation for each of its subjects that is there. -/
theorem mem_evaluations {as : List Ask} {a : Ask} (mem : a ∈ as)
    (ready : a.constraint.isReady = true) (running : r.stopping = false)
    (opened : r.gate.isOpen = true) (asked : id ∈ a.subjects) (there : w.Present id) :
    ⟨a.constraint.ref, id⟩ ∈ r.evaluations w as := by
  induction as generalizing r with
  | nil => cases mem
  | cons b as ih =>
    rcases List.mem_cons.1 mem with rfl | mem
    · exact List.mem_append_left _ (mem_evaluationsOf ready running opened asked there)
    · have kept := served_kept w r b
      exact List.mem_append_right _
        (ih mem (kept.stopping.trans running) (kept.isOpen.trans opened))

end Registry

end TagRules
