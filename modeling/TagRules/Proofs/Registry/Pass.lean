import TagRules.Proofs.Eval.Reading
import TagRules.Registry.Resolve

/-!
# Passes as functions of their state

The steps of a pass, each as an equation for its run: what a test answers and leaves alone, what an
addition and a removal do to the store, and in which order deciding takes these steps. Everything
else about passes is derived from these equations.
-/

namespace TagRules

/-- The truth of a constraint for a subject with the tags that it carries in the store. -/
def Constraint.truth (w : World) (c : Constraint) (r : SubjectRecord) (s : Services) : Bool :=
  match c.expr? with
  | none => false
  | some e => ((e.holds ⟨w, c.tag, r, s.store.tagsOf r.id⟩).run { services := s }).1

/-- Make a change of membership. -/
def Change.apply (now : Instant) (s : TagStore) : Change → TagStore
  | .added tag subject => s.add now tag subject
  | .removed tag subject => s.remove tag subject

namespace Constraint

variable {w : World} {c : Constraint} {r : SubjectRecord} {s t : Services}

theorem truth_of_expr? {e : Expr} (h : c.expr? = some e) :
    c.truth w r s =
      ((e.holds ⟨w, c.tag, r, s.store.tagsOf r.id⟩).run { services := s }).1 := by
  unfold truth
  rw [h]

/-- The truth is that of the reading. -/
theorem truth_eq_reading {e : Expr} (h : c.expr? = some e) :
    c.truth w r s =
      (e.reading ⟨w, c.tag, r, s.store.tagsOf r.id⟩ (s.view w r)).truth := by
  rw [truth_of_expr? h]
  exact (e.holds_reads _).result _

theorem tagsOf_congr {s t : TagStore} (rolls : s.rolls = t.rolls) (id : SubjectId) :
    s.tagsOf id = t.tagsOf id := by
  simp only [TagStore.tagsOf, rolls]

/-- Services that look alike give a constraint the same truth. -/
theorem truth_congr (view : s.view w r = t.view w r) : c.truth w r s = c.truth w r t := by
  cases h : c.expr? with
  | none => simp only [truth, h]
  | some e =>
    have rolls : s.store.rolls = t.store.rolls := congrArg View.rolls view
    rw [truth_eq_reading h, truth_eq_reading h, view, tagsOf_congr rolls]

end Constraint

/-- What a test leaves as it was. -/
structure PassState.Untouched (w : World) (r : SubjectRecord) (s t : PassState) : Prop where
  view : t.ledger.services.view w r = s.ledger.services.view w r
  log : t.ledger.services.store.log = s.ledger.services.store.log
  history : t.ledger.history = s.ledger.history
  visited : t.visited = s.visited
  touched : t.touched = s.touched

namespace PassState.Untouched

variable {w : World} {r : SubjectRecord} {s t : PassState}

theorem rolls (h : Untouched w r s t) :
    t.ledger.services.store.rolls = s.ledger.services.store.rolls :=
  congrArg View.rolls h.view

theorem isTagged (h : Untouched w r s t) (tag : TagId) (id : SubjectId) :
    t.ledger.services.store.isTagged tag id = s.ledger.services.store.isTagged tag id := by
  simp only [TagStore.isTagged, TagStore.addedTime?, h.rolls]

end PassState.Untouched

namespace Pass

variable {w : World} {book : Rulebook} {c : Constraint} {r : SubjectRecord}

/-- The state after a test. -/
def tested (w : World) (c : Constraint) (r : SubjectRecord) (s : PassState) : PassState :=
  ((test w c r).run s).2

theorem test_run (w : World) (c : Constraint) (r : SubjectRecord) (s : PassState) :
    (test w c r).run s = (c.truth w r s.ledger.services, tested w c r s) := by
  unfold tested test Constraint.truth
  cases c.expr? <;> rfl

theorem tested_untouched (w : World) (c : Constraint) (r : SubjectRecord) (s : PassState) :
    s.Untouched w r (tested w c r s) := by
  unfold tested test
  cases h : c.expr? with
  | none => exact ⟨rfl, rfl, rfl, rfl, rfl⟩
  | some e =>
    have kept := (e.holds_reads ⟨w, c.tag, r, s.ledger.services.store.tagsOf r.id⟩).keeps
      { services := s.ledger.services }
    exact ⟨kept.view, kept.log, rfl, rfl, rfl⟩

/-- The state after a removal. -/
def removed (book : Rulebook) (c : Constraint) (id : SubjectId) (s : PassState) : PassState :=
  if c.options.autoRemove && s.ledger.services.store.isTagged c.tag id && !book.stopping then
    { s with
      ledger.services := s.ledger.services.mapStore (·.remove c.tag id)
      touched := id :: s.touched }
  else s

theorem remove_run (book : Rulebook) (c : Constraint) (id : SubjectId) (s : PassState) :
    (remove book c id).run s = ((), removed book c id s) := by
  change (if c.options.autoRemove && s.ledger.services.store.isTagged c.tag id && !book.stopping
    then _ else _ : Pass Unit).run s = _
  unfold removed
  split <;> rfl

/-- The subject was added to the tag too recently to be added again. -/
def isRecent (w : World) (book : Rulebook) (c : Constraint) (id : SubjectId) (h : AddHistory) :
    Bool :=
  match h.last? c.tag id with
  | some last => w.ticks - last < book.cooldown
  | none => false

/-- The state after an addition. -/
def added (w : World) (book : Rulebook) (c : Constraint) (id : SubjectId) (s : PassState) :
    PassState :=
  if book.stopping || isRecent w book c id s.ledger.history then s
  else { s with
    ledger := { s.ledger with
      history := s.ledger.history.note c.tag id w.ticks
      services := s.ledger.services.mapStore (·.add w.now c.tag id) }
    touched := id :: s.touched }

theorem add_run (w : World) (book : Rulebook) (c : Constraint) (id : SubjectId) (s : PassState) :
    (add w book c id).run s = ((), added w book c id s) := by
  unfold add added
  cases book.stopping with
  | true => rfl
  | false =>
    change (if isRecent w book c id s.ledger.history = true then _ else _ : Pass Unit).run s = _
    cases isRecent w book c id s.ledger.history <;> rfl

/-- Several steps in turn. -/
theorem forM_run (f : α → Pass Unit) (as : List α) (s : PassState) :
    (as.forM f).run s = ((), as.foldl (fun s a => ((f a).run s).2) s) := by
  induction as generalizing s with
  | nil => rfl
  | cons a as ih => exact ih _

/-- The constraints that are decided first. -/
def firsts (book : Rulebook) (check : Bool) (c : Constraint) : List Constraint :=
  if check && c.mustCheck then dependencies book c else []

/-- A constraint that is decided first is that of a tag that the constraint depends on, and ready. -/
theorem of_mem_firsts {check : Bool} {dep : Constraint} (h : dep ∈ firsts book check c) :
    ∃ tag ∈ c.dependsOn, book.constraints.get? tag = some dep ∧ dep.isReady = true := by
  unfold firsts at h
  split at h
  · simp only [dependencies, List.mem_filter, List.mem_filterMap] at h
    obtain ⟨⟨tag, dependsOn, found⟩, ready⟩ := h
    exact ⟨tag, dependsOn, found, ready⟩
  · cases h

/-- The state after deciding, without the monad. -/
def decided (w : World) (book : Rulebook) (r : SubjectRecord) :
    Nat → Bool → Constraint → PassState → PassState
  | depth, check, c, s =>
    if check && s.visited.contains c.tag then s
    else
      let t := tested w c r s
      if !c.truth w r s.ledger.services then removed book c r.id t
      else if !c.options.autoAdd || t.ledger.services.store.isTagged c.tag r.id then t
      else
        match depth, firsts book check c with
        | depth + 1, d :: ds =>
          decided w book r depth false c
            ((d :: ds).foldl (fun s dep => decided w book r depth true dep s)
              { t with visited := c.tag :: t.visited })
        | _, _ => added w book c r.id t

/-- What deciding a constraint in a state can lead to. -/
inductive Decision (w : World) (book : Rulebook) (r : SubjectRecord) (depth : Nat) (check : Bool)
    (c : Constraint) (s : PassState) : PassState → Prop
  /-- The dependencies of the tag are just being decided. -/
  | skip (visited : check = true ∧ c.tag ∈ s.visited) : Decision w book r depth check c s s
  /-- The constraint does not hold. -/
  | leave (truth : c.truth w r s.ledger.services = false) :
    Decision w book r depth check c s (removed book c r.id (tested w c r s))
  /-- The constraint holds, and there is nothing to do. -/
  | stay (truth : c.truth w r s.ledger.services = true)
    (done : c.options.autoAdd = true → s.ledger.services.store.isTagged c.tag r.id = true) :
    Decision w book r depth check c s (tested w c r s)
  /-- The constraint holds, and the subject may join. -/
  | join (truth : c.truth w r s.ledger.services = true) (allowed : c.options.autoAdd = true)
    (absent : s.ledger.services.store.isTagged c.tag r.id = false)
    (last : depth = 0 ∨ firsts book check c = []) :
    Decision w book r depth check c s (added w book c r.id (tested w c r s))
  /-- The constraint holds; it is decided again once its dependencies are. -/
  | defer {deeper : Nat} (truth : c.truth w r s.ledger.services = true)
    (allowed : c.options.autoAdd = true)
    (absent : s.ledger.services.store.isTagged c.tag r.id = false) (depth_eq : depth = deeper + 1)
    (some : firsts book check c ≠ []) :
    Decision w book r depth check c s (decided w book r deeper false c
      ((firsts book check c).foldl (fun s dep => decided w book r deeper true dep s)
        { tested w c r s with visited := c.tag :: s.visited }))

theorem decision (w : World) (book : Rulebook) (r : SubjectRecord) (depth : Nat) (check : Bool)
    (c : Constraint) (s : PassState) :
    Decision w book r depth check c s (decided w book r depth check c s) := by
  have kept := tested_untouched w c r s
  unfold decided
  split
  · next h =>
    simp only [Bool.and_eq_true, List.contains_iff_mem] at h
    exact .skip h
  · simp only [kept.isTagged]
    split
    · next h => exact .leave (by simpa using h)
    · next h =>
      have truth : c.truth w r s.ledger.services = true := by simpa using h
      split
      · next h => exact .stay truth fun allowed => by simpa [allowed] using h
      · next h =>
        simp only [Bool.or_eq_true, Bool.not_eq_true', not_or, Bool.not_eq_false,
          Bool.not_eq_true] at h
        obtain ⟨allowed, absent⟩ := h
        cases depth with
        | zero => exact .join truth allowed absent (.inl rfl)
        | succ depth =>
          split
          · next first =>
            rw [← first, kept.visited]
            cases ‹depth + 1 = _›
            exact .defer truth allowed absent rfl (by simp [first])
          · next none =>
            refine .join truth allowed absent (.inr ?_)
            cases h : firsts book check c with
            | nil => rfl
            | cons d ds => exact (none _ _ _ rfl h).elim

theorem run_bind (m : Pass α) (k : α → Pass β) (s : PassState) :
    (m >>= k).run s = (k (m.run s).1).run (m.run s).2 :=
  rfl

/-- Deciding takes the steps of `decided`. -/
theorem resolve_run (w : World) (book : Rulebook) (r : SubjectRecord) (depth : Nat) (check : Bool)
    (c : Constraint) (s : PassState) :
    (resolve w book depth check c r).run s = ((), decided w book r depth check c s) := by
  induction depth generalizing check c s with
  | zero =>
    unfold resolve decided
    change StateT.run (if (check && s.visited.contains c.tag) = true then _ else _ : Pass Unit) s = _
    split
    · rfl
    · rw [run_bind, test_run]
      split
      · rw [remove_run]
      · change StateT.run (if _ = true then _ else _ : Pass Unit) _ = _
        split
        · next stays => simp only [stays, if_true]; rfl
        · next leaves => simp only [leaves]; exact add_run ..
  | succ depth ih =>
    unfold resolve decided
    change StateT.run (if (check && s.visited.contains c.tag) = true then _ else _ : Pass Unit) s = _
    split
    · rfl
    · rw [run_bind, test_run]
      split
      · rw [remove_run]
      · change StateT.run (if _ = true then _ else _ : Pass Unit) _ = _
        split
        · next stays => simp only [stays, if_true]; rfl
        · next leaves =>
          simp only [leaves, firsts]
          cases (if (check && c.mustCheck) = true then dependencies book c else []) with
          | nil => exact add_run ..
          | cons d ds =>
            simp only [run_bind, forM_run, ih]
            rfl

/-- The state after deciding a constraint for the subject of an identity, if there is one. -/
def decidedFor (w : World) (book : Rulebook) (c : Constraint) (check : Bool) (s : PassState)
    (id : SubjectId) : PassState :=
  match w.subjects.get? id with
  | none => s
  | some subject =>
    if book.stopping || subject.destroyed then s
    else decided w book subject.record (fullDepth book) check c { s with visited := [] }

theorem decideEach_run (w : World) (book : Rulebook) (c : Constraint) (check : Bool)
    (ids : List SubjectId) (s : PassState) :
    (decideEach w book c check ids).run s = ((), ids.foldl (decidedFor w book c check) s) := by
  unfold decideEach
  rw [forM_run]
  congr 2
  funext s id
  unfold decidedFor
  cases w.subjects.get? id with
  | none => rfl
  | some subject =>
    simp only []
    split
    · rfl
    · rw [run_bind, resolve_run]
      rfl

end Pass

end TagRules
