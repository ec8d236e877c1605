import TagRules.Proofs.Registry.Progress

/-!
# Reasons for changes

A change of membership is justified if the constraint that is registered for its tag at that moment
calls for it: the constraint is compiled and enabled, its options allow the change, the subject is
one that was asked for and still exists, and the expression, evaluated on the memberships right
before the change, has the truth that the change makes visible. Whatever a pass changes is
justified.
-/

namespace TagRules

/-- The change is an addition. -/
def Change.isAddition : Change → Bool
  | .added _ _ => true
  | .removed _ _ => false

/-- The options of a constraint allow a change. -/
def Options.allows (o : Options) : Change → Bool
  | .added _ _ => o.autoAdd
  | .removed _ _ => o.autoRemove

/-- Why a change is made: what is true of the constraint, the subject and the services right before
it. -/
structure Change.Grounds (w : World) (constraints : Dict TagId Constraint) (s : Services)
    (change : Change) (c : Constraint) (e : Expr) (subject : Subject) : Prop where
  registered : constraints.get? change.tag = some c
  compiled : c.expr? = some e
  enabled : c.enabled = true
  allowed : c.options.allows change = true
  identity : subject.record.id = change.subject
  present : subject.destroyed = false
  membership : s.store.isTagged change.tag change.subject = !change.isAddition
  truth : ((e.holds ⟨w, change.tag, subject.record, s.store.tagsOf change.subject⟩).run
    { services := s }).1 = change.isAddition

/-- A change has its reason in a registered constraint and in a subject that was asked for. -/
def Change.Justified (w : World) (constraints : Dict TagId Constraint) (asked : SubjectId → Prop)
    (s : Services) (change : Change) : Prop :=
  ∃ c e subject, change.Grounds w constraints s c e subject ∧
    ∃ id, asked id ∧ w.subjects.get? id = some subject

theorem Change.Justified.imp {w : World} {constraints : Dict TagId Constraint}
    {asked asked' : SubjectId → Prop} (weaker : ∀ id, asked id → asked' id) {s : Services}
    {change : Change} (h : change.Justified w constraints asked s) :
    change.Justified w constraints asked' s := by
  obtain ⟨c, e, subject, grounds, id, ask, found⟩ := h
  exact ⟨c, e, subject, grounds, id, weaker id ask, found⟩

/-- The identity of a subject that was asked for. -/
def World.Found (w : World) (asked : SubjectId → Prop) (id : SubjectId) : Prop :=
  ∃ other subject, asked other ∧ w.subjects.get? other = some subject ∧ subject.record.id = id

/-- Each constraint is filed under its own tag. -/
def Constraint.Filed (constraints : Dict TagId Constraint) : Prop :=
  ∀ tag c, constraints.get? tag = some c → c.tag = tag

/-- The constraint is the one of its tag and can be applied. -/
structure Constraint.Governs (constraints : Dict TagId Constraint) (c : Constraint) : Prop where
  registered : constraints.get? c.tag = some c
  ready : c.isReady = true

namespace Constraint

variable {constraints : Dict TagId Constraint} {c : Constraint}

theorem Filed.registered (h : Filed constraints) {tag : TagId}
    (found : constraints.get? tag = some c) : constraints.get? c.tag = some c := by
  rwa [h tag c found]

theorem exists_expr_of_isReady (h : c.isReady = true) :
    ∃ e, c.expr? = some e ∧ c.enabled = true := by
  simp only [isReady, Bool.and_eq_true, Option.isSome_iff_exists] at h
  obtain ⟨⟨e, he⟩, enabled⟩ := h
  exact ⟨e, he, enabled⟩

end Constraint

namespace Pass

open PassState

variable {w : World} {book : Rulebook} {c : Constraint} {r : SubjectRecord}
  {P : Services → Change → Prop}

/-- Dependencies that are decided first are registered and can be applied. -/
theorem governs_of_mem_firsts (filed : Constraint.Filed book.constraints) {check : Bool}
    {dep : Constraint} (h : dep ∈ firsts book check c) : dep.Governs book.constraints := by
  obtain ⟨tag, -, found, ready⟩ := of_mem_firsts h
  exact ⟨filed.registered found, ready⟩

theorem removed_runs {id : SubjectId} {s : PassState}
    (meets : c.options.autoRemove = true → s.ledger.services.store.isTagged c.tag id = true →
      P s.ledger.services (.removed c.tag id)) :
    s.Runs w.now P (· = id) (removed book c id s) := by
  unfold removed
  split
  · next h =>
    simp only [Bool.and_eq_true] at h
    refine ⟨⟨_, .change (.refl _) (meets h.1.1 h.1.2) rfl (TagStore.remove_of_isTagged h.1.2)⟩, ?_⟩
    intro other mem
    exact (List.mem_cons.1 mem).symm
  · exact .refl s

theorem added_runs {id : SubjectId} {s : PassState}
    (absent : s.ledger.services.store.isTagged c.tag id = false)
    (meets : P s.ledger.services (.added c.tag id)) :
    s.Runs w.now P (· = id) (added w book c id s) := by
  unfold added
  split
  · exact .refl s
  · refine ⟨?_, fun other mem => (List.mem_cons.1 mem).symm⟩
    rcases TagStore.add_of_not_isTagged w.now absent with ⟨-, same⟩ | logged
    · refine ⟨[], .quiet (.refl _) ?_ ?_⟩ <;> simp only [Services.mapStore, same]
    · exact ⟨_, .change (.refl _) meets rfl logged⟩

/-- Deciding a constraint makes changes for which that constraint, or one that is decided before it,
gives a reason. The induction is on the depth of the dependencies. -/
theorem decided_runs (filed : Constraint.Filed book.constraints)
    (adds : ∀ (c : Constraint) s, c.Governs book.constraints → c.options.autoAdd = true →
      s.store.isTagged c.tag r.id = false → c.truth w r s = true → P s (.added c.tag r.id))
    (removes : ∀ (c : Constraint) s, c.Governs book.constraints → c.options.autoRemove = true →
      s.store.isTagged c.tag r.id = true → c.truth w r s = false → P s (.removed c.tag r.id))
    (depth : Nat) (check : Bool) (c : Constraint) (governs : c.Governs book.constraints)
    (s : PassState) : s.Runs w.now P (· = r.id) (decided w book r depth check c s) := by
  induction depth using Nat.strongRecOn generalizing check c s with
  | ind depth ih =>
    have kept := tested_untouched w c r s
    have same : c.truth w r (tested w c r s).ledger.services = c.truth w r s.ledger.services :=
      Constraint.truth_congr kept.view
    have step := decision w book r depth check c s
    generalize decided w book r depth check c s = t at step ⊢
    cases step with
    | skip => exact .refl s
    | leave truth =>
      refine .trans (.of_untouched kept) (removed_runs fun allowed present => ?_)
      exact removes c _ governs allowed present (same.trans truth)
    | stay => exact .of_untouched kept
    | join truth allowed absent =>
      have absent := (kept.isTagged c.tag r.id).trans absent
      refine .trans (.of_untouched kept) (added_runs absent ?_)
      exact adds c _ governs allowed absent (same.trans truth)
    | @defer deeper _ _ _ depth_eq =>
      have lt : deeper < depth := by omega
      have noted : s.Runs w.now P (· = r.id) { tested w c r s with visited := c.tag :: s.visited } :=
        .of_eq kept.rolls kept.log kept.touched
      refine (noted.trans (.foldl _ (fun dep mem s => ?_) _)).trans (ih deeper lt false c governs _)
      exact ih deeper lt true dep (governs_of_mem_firsts filed mem) s

/-- A constraint that governs its tag is decided for several subjects with justified changes. -/
theorem decidedEach_runs (w : World) (book : Rulebook) (filed : Constraint.Filed book.constraints)
    (governs : c.Governs book.constraints) (check : Bool) (ids : List SubjectId) (s : PassState) :
    s.Runs w.now (Change.Justified w book.constraints (· ∈ ids)) (w.Found (· ∈ ids))
      (ids.foldl (decidedFor w book c check) s) := by
  refine .foldl ids (fun id mem s => ?_) s
  unfold decidedFor
  cases found : w.subjects.get? id with
  | none => exact .refl s
  | some subject =>
    simp only []
    split
    · exact .refl s
    · next h =>
      have present : subject.destroyed = false := by
        cases hd : subject.destroyed with
        | false => rfl
        | true => simp [hd] at h
      have cleared : s.Runs w.now (Change.Justified w book.constraints (· ∈ ids)) (w.Found (· ∈ ids))
          { s with visited := [] } := .of_eq rfl rfl rfl
      refine cleared.trans (.imp (fun _ _ h => h) ?_
        (decided_runs filed ?_ ?_ (fullDepth book) check c governs { s with visited := [] }))
      · rintro _ rfl
        exact ⟨id, subject, mem, found, rfl⟩
      · intro c s governs allowed absent truth
        obtain ⟨e, compiled, enabled⟩ := Constraint.exists_expr_of_isReady governs.ready
        refine ⟨c, e, subject, ?_, id, mem, found⟩
        rw [Constraint.truth_of_expr? compiled] at truth
        exact ⟨governs.registered, compiled, enabled, allowed, rfl, present, absent, truth⟩
      · intro c s governs allowed tagged truth
        obtain ⟨e, compiled, enabled⟩ := Constraint.exists_expr_of_isReady governs.ready
        refine ⟨c, e, subject, ?_, id, mem, found⟩
        rw [Constraint.truth_of_expr? compiled] at truth
        exact ⟨governs.registered, compiled, enabled, allowed, rfl, present, tagged, truth⟩

end Pass

end TagRules
