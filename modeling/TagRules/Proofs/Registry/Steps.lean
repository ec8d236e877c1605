import TagRules.Proofs.Eval.Stamps
import TagRules.Proofs.Registry.Evaluations
import TagRules.Proofs.Registry.Setting
import TagRules.Proofs.Registry.Sweeps

/-!
# What requests do to the ledger

Whatever is asked of a registry, all that happens to its ledger are steps of three kinds: a
constraint is tested, a subject leaves a tag, or a subject joins one (`Ledger.Step`). A step says
under which conditions it is taken, and which membership it touches. `Ledger.Steps` is the run, and
`Registry.Steps` says of a request that its effect is such a run. What all steps preserve, a request
preserves.
-/

namespace TagRules

namespace Ledger

/-- The ledger after a test. -/
def tested (l : Ledger) (w : World) (c : Constraint) (r : SubjectRecord) : Ledger :=
  (Pass.tested w c r { ledger := l }).ledger

/-- The ledger after a subject left a tag. -/
def left (l : Ledger) (tag : TagId) (id : SubjectId) : Ledger :=
  { l with services := l.services.mapStore (·.remove tag id) }

/-- The ledger after a subject joined a tag. -/
def joined (l : Ledger) (w : World) (tag : TagId) (id : SubjectId) : Ledger :=
  { l with
    history := l.history.note tag id w.ticks
    services := l.services.mapStore (·.add w.now tag id) }

/-- A step for one subject, with the subjects whose membership it touches. -/
inductive Step (w : World) (book : Rulebook) (r : SubjectRecord) (l : Ledger) :
    List SubjectId → Ledger → Prop
  | test (c : Constraint) : Step w book r l [] (l.tested w c r)
  /-- The subject is in a tag whose constraint does not hold. -/
  | leave (c : Constraint) (running : book.stopping = false) (allowed : c.options.autoRemove = true)
    (truth : c.truth w r l.services = false)
    (member : l.services.store.isTagged c.tag r.id = true) :
    Step w book r l [r.id] (l.left c.tag r.id)
  /-- The subject is not in a tag whose constraint holds, and was not added too recently. -/
  | join (c : Constraint) (running : book.stopping = false) (allowed : c.options.autoAdd = true)
    (truth : c.truth w r l.services = true)
    (absent : l.services.store.isTagged c.tag r.id = false)
    (rested : Pass.isRecent w book c r.id l.history = false) :
    Step w book r l [r.id] (l.joined w c.tag r.id)

/-- Steps one after the other for some subjects, with the subjects whose membership they touch, oldest
first. -/
inductive Steps (w : World) (book : Rulebook) (who : SubjectRecord → Prop) (l : Ledger) :
    List SubjectId → Ledger → Prop
  | refl : Steps w book who l [] l
  | step {ids more m l' r} (before : Steps w book who l ids m) (asked : who r)
    (last : m.Step w book r more l') : Steps w book who l (ids ++ more) l'

variable {w : World} {book : Rulebook} {r : SubjectRecord} {who who' : SubjectRecord → Prop}
  {l l' l'' : Ledger} {ids more : List SubjectId} {c : Constraint}

@[simp] theorem tested_history (l : Ledger) (w : World) (c : Constraint) (r : SubjectRecord) :
    (l.tested w c r).history = l.history :=
  (Pass.tested_untouched w c r { ledger := l }).history

@[simp] theorem tested_rolls (l : Ledger) (w : World) (c : Constraint) (r : SubjectRecord) :
    (l.tested w c r).services.store.rolls = l.services.store.rolls :=
  (Pass.tested_untouched w c r { ledger := l }).rolls

@[simp] theorem tested_log (l : Ledger) (w : World) (c : Constraint) (r : SubjectRecord) :
    (l.tested w c r).services.store.log = l.services.store.log :=
  (Pass.tested_untouched w c r { ledger := l }).log

/-- A test evaluates the expression, if there is one. -/
theorem tested_services (l : Ledger) (w : World) (c : Constraint) (r : SubjectRecord) :
    (l.tested w c r).services = l.services ∨ ∃ e sc, sc.world = w ∧ sc.subject = r ∧
      (l.tested w c r).services = ((Expr.holds sc e).run { services := l.services }).2.services := by
  unfold tested Pass.tested Pass.test
  cases c.expr? with
  | none => exact .inl rfl
  | some e => exact .inr ⟨e, ⟨w, c.tag, r, l.services.store.tagsOf r.id⟩, rfl, rfl, rfl⟩

theorem tested_stamped (stamped : l.services.Stamped) (c : Constraint) (r : SubjectRecord) :
    (l.tested w c r).services.Stamped := by
  rcases l.tested_services w c r with same | ⟨e, sc, rfl, rfl, same⟩
  · rwa [same]
  · rw [same]
    exact ((e.holds_reads sc).keeps { services := l.services }).stamped stamped

namespace Step

theorem touched (h : l.Step w book r ids l') : ids = [] ∨ ids = [r.id] := by
  cases h with
  | test => exact .inl rfl
  | leave => exact .inr rfl
  | join => exact .inr rfl

/-- A step that touches nothing changes neither memberships nor what is kept of them. -/
theorem untouched (h : l.Step w book r [] l') :
    l'.services.store.rolls = l.services.store.rolls ∧
      l'.services.store.log = l.services.store.log ∧ l'.history = l.history := by
  cases h with
  | test c => exact ⟨l.tested_rolls w c r, l.tested_log w c r, l.tested_history w c r⟩

theorem running_of_touched (h : l.Step w book r ids l') (some : ids ≠ []) :
    book.stopping = false := by
  cases h with
  | test => contradiction
  | leave _ running => exact running
  | join _ running => exact running

theorem stamped (h : l.Step w book r ids l') (stamped : l.services.Stamped) :
    l'.services.Stamped := by
  cases h with
  | test c => exact tested_stamped stamped c r
  | leave => exact stamped.congr rfl rfl rfl
  | join => exact stamped.congr rfl rfl rfl

end Step

namespace Steps

theorem single (asked : who r) (h : l.Step w book r ids l') : l.Steps w book who ids l' := by
  have one := Steps.refl.step asked h
  rwa [List.nil_append] at one

theorem trans (first : l.Steps w book who ids l') (second : l'.Steps w book who more l'') :
    l.Steps w book who (ids ++ more) l'' := by
  induction second with
  | refl => rwa [List.append_nil]
  | step _ asked last ih =>
    rw [← List.append_assoc]
    exact ih.step asked last

theorem imp (weaker : ∀ r, who r → who' r) (h : l.Steps w book who ids l') :
    l.Steps w book who' ids l' := by
  induction h with
  | refl => exact .refl
  | step _ asked last ih => exact ih.step (weaker _ asked) last

/-- Only subjects that were asked for are touched. -/
theorem who_of_mem (h : l.Steps w book who ids l') {id : SubjectId} (mem : id ∈ ids) :
    ∃ r, who r ∧ r.id = id := by
  induction h with
  | refl => cases mem
  | @step _ _ _ _ r _ asked last ih =>
    rcases List.mem_append.1 mem with mem | mem
    · exact ih mem
    · rcases last.touched with none | own
      · rw [none] at mem
        cases mem
      · rw [own] at mem
        exact ⟨r, asked, (List.mem_singleton.1 mem).symm⟩

/-- Where nothing is touched, neither memberships nor what is kept of them change. -/
theorem untouched (h : l.Steps w book who ids l') (none : ids = []) :
    l'.services.store.rolls = l.services.store.rolls ∧
      l'.services.store.log = l.services.store.log ∧ l'.history = l.history := by
  induction h with
  | refl => exact ⟨rfl, rfl, rfl⟩
  | step _ _ last ih =>
    obtain ⟨none, none'⟩ := List.append_eq_nil_iff.1 none
    obtain ⟨rolls, log, history⟩ := ih none
    obtain ⟨rolls', log', history'⟩ := (none' ▸ last).untouched
    exact ⟨rolls'.trans rolls, log'.trans log, history'.trans history⟩

/-- Nothing is touched once everything is stopping. -/
theorem eq_nil_of_stopping (h : l.Steps w book who ids l') (stopping : book.stopping = true) :
    ids = [] := by
  induction h with
  | refl => rfl
  | step _ _ last ih =>
    rw [ih, List.nil_append]
    by_contra some
    have running := last.running_of_touched some
    rw [stopping] at running
    cases running

/-- What every step preserves, all steps preserve. -/
theorem preserve {P : Ledger → Prop} (h : l.Steps w book who ids l')
    (step : ∀ m r more m', who r → m.Step w book r more m' → P m → P m') (start : P l) : P l' := by
  induction h with
  | refl => exact start
  | step _ asked last ih => exact step _ _ _ _ asked last ih

theorem stamped (h : l.Steps w book who ids l') (stamped : l.services.Stamped) :
    l'.services.Stamped :=
  h.preserve (P := (·.services.Stamped)) (fun _ _ _ _ _ step => step.stamped) stamped

/-- The log gains changes for the subjects of the steps. -/
theorem log (h : l.Steps w book who ids l') :
    ∃ made, l'.services.store.log = made ++ l.services.store.log ∧
      ∀ change ∈ made, ∃ r, who r ∧ change.subject = r.id := by
  induction h with
  | refl => exact ⟨[], rfl, fun _ mem => nomatch mem⟩
  | @step _ _ _ _ r _ asked last ih =>
    obtain ⟨made, log, own⟩ := ih
    have more (change : Change) (subject : change.subject = r.id) : ∀ c ∈ change :: made,
        ∃ r, who r ∧ c.subject = r.id := by
      intro c mem
      rcases List.mem_cons.1 mem with rfl | mem
      · exact ⟨r, asked, subject⟩
      · exact own c mem
    cases last with
    | test c => exact ⟨made, (tested_log ..).trans log, own⟩
    | leave c _ _ _ member =>
      refine ⟨.removed c.tag r.id :: made, ?_, more _ rfl⟩
      exact (TagStore.remove_of_isTagged member).trans (congrArg _ log)
    | join c _ _ _ absent =>
      rcases TagStore.add_of_not_isTagged w.now absent with ⟨_, same⟩ | logged
      · exact ⟨made, (congrArg _ same).trans log, own⟩
      · exact ⟨.added c.tag r.id :: made, logged.trans (congrArg _ log), more _ rfl⟩

end Steps

end Ledger

/-- From one state of a pass to another by steps for some subjects. -/
def PassState.Steps (w : World) (book : Rulebook) (who : SubjectRecord → Prop) (s t : PassState) :
    Prop :=
  ∃ ids, s.ledger.Steps w book who ids t.ledger ∧ t.touched = ids.reverse ++ s.touched

namespace PassState.Steps

variable {w : World} {book : Rulebook} {who who' : SubjectRecord → Prop} {s t u : PassState}

theorem of_eq (ledger : t.ledger = s.ledger) (touched : t.touched = s.touched) :
    s.Steps w book who t :=
  ⟨[], ledger ▸ .refl, touched⟩

theorem trans (first : s.Steps w book who t) (second : t.Steps w book who u) :
    s.Steps w book who u := by
  obtain ⟨ids, first, touched⟩ := first
  obtain ⟨more, second, touched'⟩ := second
  refine ⟨ids ++ more, first.trans second, ?_⟩
  rw [touched', touched, List.reverse_append, List.append_assoc]

theorem imp (weaker : ∀ r, who r → who' r) (h : s.Steps w book who t) : s.Steps w book who' t := by
  obtain ⟨ids, steps, touched⟩ := h
  exact ⟨ids, steps.imp weaker, touched⟩

theorem foldl {f : PassState → α → PassState} (as : List α)
    (h : ∀ a ∈ as, ∀ s, PassState.Steps w book who s (f s a)) (s : PassState) :
    s.Steps w book who (as.foldl f s) :=
  List.foldlRecOn as f (motive := s.Steps w book who) (.of_eq rfl rfl)
    fun t steps a mem => steps.trans (h a mem t)

end PassState.Steps

namespace Pass

variable {w : World} {book : Rulebook} {r : SubjectRecord} {c : Constraint}

theorem tested_eq (w : World) (c : Constraint) (r : SubjectRecord) (s : PassState) :
    tested w c r s = { s with ledger := s.ledger.tested w c r } := by
  unfold Ledger.tested tested test
  cases c.expr? <;> rfl

theorem tested_steps (w : World) (book : Rulebook) (c : Constraint) (r : SubjectRecord)
    (s : PassState) : s.Steps w book (· = r) (tested w c r s) := by
  rw [tested_eq]
  exact ⟨[], .single rfl (.test c), rfl⟩

/-- After a test, the truth is still what was found. -/
theorem truth_tested (w : World) (c : Constraint) (r : SubjectRecord) (s : PassState) :
    c.truth w r (tested w c r s).ledger.services = c.truth w r s.ledger.services :=
  Constraint.truth_congr (tested_untouched w c r s).view

theorem removed_steps {s : PassState} (truth : c.truth w r s.ledger.services = false) :
    s.Steps w book (· = r) (removed book c r.id s) := by
  unfold removed
  split
  · next h =>
    simp only [Bool.and_eq_true, Bool.not_eq_true'] at h
    obtain ⟨⟨allowed, member⟩, running⟩ := h
    exact ⟨[r.id], .single rfl (.leave c running allowed truth member), rfl⟩
  · exact .of_eq rfl rfl

theorem added_steps {s : PassState} (truth : c.truth w r s.ledger.services = true)
    (allowed : c.options.autoAdd = true)
    (absent : s.ledger.services.store.isTagged c.tag r.id = false) :
    s.Steps w book (· = r) (added w book c r.id s) := by
  unfold added
  split
  · exact .of_eq rfl rfl
  · next h =>
    simp only [Bool.or_eq_true, not_or, Bool.not_eq_true] at h
    obtain ⟨running, rested⟩ := h
    exact ⟨[r.id], .single rfl (.join c running allowed truth absent rested), rfl⟩

/-- Deciding takes steps for one subject. The induction is on the depth of the dependencies. -/
theorem decided_steps (w : World) (book : Rulebook) (r : SubjectRecord) (depth : Nat) (check : Bool)
    (c : Constraint) (s : PassState) :
    s.Steps w book (· = r) (decided w book r depth check c s) := by
  induction depth using Nat.strongRecOn generalizing check c s with
  | ind depth ih =>
    have first := tested_steps w book c r s
    have kept := tested_untouched w c r s
    have decision := decision w book r depth check c s
    generalize decided w book r depth check c s = t at decision ⊢
    cases decision with
    | skip => exact .of_eq rfl rfl
    | leave truth => exact first.trans (removed_steps ((truth_tested w c r s).trans truth))
    | stay => exact first
    | join truth allowed absent =>
      exact first.trans (added_steps ((truth_tested w c r s).trans truth) allowed
        ((kept.isTagged c.tag r.id).trans absent))
    | @defer deeper _ _ _ depth_eq =>
      have lt : deeper < depth := by omega
      have marked : s.Steps w book (· = r) { tested w c r s with visited := c.tag :: s.visited } :=
        first.trans (.of_eq rfl rfl)
      have firsts := PassState.Steps.foldl (firsts book check c)
        (fun dep _ s => ih deeper lt true dep s) { tested w c r s with visited := c.tag :: s.visited }
      exact (marked.trans firsts).trans (ih deeper lt false c _)

end Pass

/-- The record of a subject that was asked for. -/
def World.Recorded (w : World) (asked : SubjectId → Prop) (r : SubjectRecord) : Prop :=
  ∃ id subject, asked id ∧ w.subjects.get? id = some subject ∧ subject.record = r

theorem World.Recorded.imp {w : World} {asked asked' : SubjectId → Prop}
    (weaker : ∀ id, asked id → asked' id) (r : SubjectRecord) (h : w.Recorded asked r) :
    w.Recorded asked' r := by
  obtain ⟨id, subject, ask, found⟩ := h
  exact ⟨id, subject, weaker id ask, found⟩

/-- Where subjects are filed under their own identities, a record that was asked for has the identity
that was asked for. -/
theorem World.Recorded.asked {w : World} {asked : SubjectId → Prop} {r : SubjectRecord}
    (h : w.Recorded asked r) (filed : w.Filed) : asked r.id := by
  obtain ⟨id, subject, ask, found, rfl⟩ := h
  rwa [filed id subject found]

theorem Pass.decidedEach_steps (w : World) (book : Rulebook) (c : Constraint) (check : Bool)
    (ids : List SubjectId) (s : PassState) :
    s.Steps w book (w.Recorded (· ∈ ids)) (ids.foldl (decidedFor w book c check) s) := by
  refine .foldl ids (fun id mem s => ?_) s
  unfold decidedFor
  cases found : w.subjects.get? id with
  | none => exact .of_eq rfl rfl
  | some subject =>
    dsimp only
    split
    · exact .of_eq rfl rfl
    · have clean : s.Steps w book (· = subject.record) { s with visited := [] } := .of_eq rfl rfl
      refine (clean.trans (decided_steps ..)).imp fun r same => ?_
      exact ⟨id, subject, mem, found, same.symm⟩

/-- A request changes the ledger by steps, and nothing that passes read. -/
structure Registry.Steps (w : World) (who : SubjectRecord → Prop) (r : Registry)
    (result : List SubjectId × Registry) : Prop where
  ledger : r.ledger.Steps w r.rulebook who result.1 result.2.ledger
  rulebook : result.2.rulebook = r.rulebook

namespace Registry

variable {w : World} {who who' : SubjectRecord → Prop} {r r' r'' : Registry}
  {ids more : List SubjectId}

namespace Steps

theorem refl (r : Registry) : r.Steps w who ([], r) :=
  ⟨.refl, rfl⟩

theorem trans (first : r.Steps w who (ids, r')) (second : r'.Steps w who (more, r'')) :
    r.Steps w who (ids ++ more, r'') where
  ledger := by
    have later := second.ledger
    rw [first.rulebook] at later
    exact first.ledger.trans later
  rulebook := second.rulebook.trans first.rulebook

theorem imp (weaker : ∀ r, who r → who' r) {result : List SubjectId × Registry}
    (h : r.Steps w who result) : r.Steps w who' result :=
  ⟨h.ledger.imp weaker, h.rulebook⟩

/-- Steps for subjects that were asked for are steps for some subjects. -/
theorem all {asked : SubjectId → Prop} {result : List SubjectId × Registry}
    (h : r.Steps w (w.Recorded asked) result) : r.Steps w (w.Recorded fun _ => True) result :=
  h.imp (.imp fun _ _ => trivial)

/-- A request that touches nothing changes no membership. -/
theorem untouched {result : List SubjectId × Registry} (h : r.Steps w who result)
    (none : result.1 = []) : result.2.store.rolls = r.store.rolls ∧
      result.2.store.log = r.store.log ∧ result.2.ledger.history = r.ledger.history :=
  h.ledger.untouched none

/-- A request to a registry that is stopping touches nothing. -/
theorem eq_nil_of_stopping {result : List SubjectId × Registry} (h : r.Steps w who result)
    (stopping : r.stopping = true) : result.1 = [] :=
  h.ledger.eq_nil_of_stopping stopping

end Steps

theorem runPass_steps (w : World) (r : Registry) (c : Constraint) (check : Bool)
    (ids : List SubjectId) : r.Steps w (w.Recorded (· ∈ ids))
      (r.runPass (Pass.decideEach w r.rulebook c check ids)) := by
  obtain ⟨touched, steps, same⟩ :=
    Pass.decidedEach_steps w r.rulebook c check ids { ledger := r.ledger }
  unfold runPass
  rw [Pass.decideEach_run]
  refine ⟨?_, rfl⟩
  dsimp only
  rwa [same, List.append_nil, List.reverse_reverse]

theorem apply_steps (r : Registry) (w : World) (c : Constraint) (check : Bool)
    (ids : List SubjectId) : r.Steps w (w.Recorded (· ∈ ids)) (r.apply w c check ids) := by
  unfold apply
  split
  · exact .refl r
  · split
    · exact runPass_steps w r c check ids
    · exact ⟨.refl, rfl⟩

theorem applyEach_steps (r : Registry) (w : World) (check : Bool) (ids : List SubjectId)
    (cs : List Constraint) : r.Steps w (w.Recorded (· ∈ ids)) (r.applyEach w check ids cs) := by
  induction cs generalizing r with
  | nil => exact .refl r
  | cons c cs ih => exact (apply_steps r w c check ids).trans (ih _)

theorem applyToOne_steps (r : Registry) (w : World) (id : SubjectId) :
    r.Steps w (w.Recorded (· = id)) (r.applyToOne w id) :=
  (applyEach_steps r w true [id] r.snapshot).imp (.imp fun _ mem => List.mem_singleton.1 mem)

theorem applyToMany_steps (r : Registry) (w : World) (initial : Bool) (ids : List SubjectId) :
    r.Steps w (w.Recorded (· ∈ ids)) (r.applyToMany w initial ids) := by
  have first := applyEach_steps r w (!initial) ids r.snapshot
  unfold applyToMany
  cases initial with
  | false => exact first
  | true =>
    have done : r.Steps w (w.Recorded (· ∈ ids)) ((r.applyEach w (!true) ids r.snapshot).1,
        { (r.applyEach w (!true) ids r.snapshot).2 with initialDone := true }) :=
      ⟨first.ledger, first.rulebook⟩
    exact done.trans (applyEach_steps ..)

theorem runHeld_steps (r : Registry) (w : World) (requests : List Request) :
    r.Steps w (w.Recorded fun _ => True) (r.runHeld w requests) := by
  induction requests generalizing r with
  | nil => exact .refl r
  | cons request requests ih =>
    refine .trans ?_ (ih _)
    cases r.current? request.constraint with
    | none => exact .refl r
    | some c => exact (runPass_steps ..).all

theorem setProcessing_steps (r : Registry) (w : World) (enabled : Bool) :
    r.Steps w (w.Recorded fun _ => True) (r.setProcessing w enabled) := by
  cases enabled with
  | false => exact ⟨.refl, rfl⟩
  | true =>
    have held := runHeld_steps { r with gate := r.gate.resume.2 } w r.gate.resume.1
    exact ⟨held.ledger, held.rulebook⟩

theorem setConstraint_stamped (w : World) (tag : TagId) (text options : String) (enabled : Bool)
    (stamped : r.ledger.services.Stamped) :
    (r.setConstraint w tag text options enabled).2.ledger.services.Stamped := by
  have setting := setConstraint_setting r w tag text options enabled
  generalize r.setConstraint w tag text options enabled = result at setting ⊢
  cases setting with
  | dropped => exact stamped
  | same => exact stamped
  | installed _ _ _ services =>
    simp only [services]
    exact stamped.congr rfl rfl rfl

end Registry

end TagRules
