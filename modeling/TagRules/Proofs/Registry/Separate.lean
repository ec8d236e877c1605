import TagRules.Proofs.Registry.Steps

/-!
# Subjects do not influence each other

Without `countTag`, an expression reads nothing of other subjects. Two ledgers are alike for a subject
if they agree on all that concerns it (`Ledger.Alike`). What is decided for other subjects leaves a
ledger alike (`Ledger.Steps.alike`), and deciding the subject itself in ledgers that are alike gives
ledgers that are alike (`Pass.decided_alike`). So a pass over several subjects does for each of them
what a pass over this one alone does, and their order does not matter
(`Registry.applyToMany_separate`).
-/

namespace TagRules

/-- The expression of the constraint does not count members. -/
def Constraint.Uncounted (c : Constraint) : Prop :=
  ∀ e ∈ c.expr?, ∀ call ∈ e.calls, call.1 ≠ .countTag

instance (c : Constraint) : Decidable c.Uncounted :=
  inferInstanceAs (Decidable (∀ e ∈ c.expr?, ∀ call ∈ e.calls, call.1 ≠ .countTag))

namespace TagStore

/-- Two stores agree on a subject: they have the same tags, in which it has been as long, and the same
changes of it in their logs. -/
structure Alike (id : SubjectId) (s t : TagStore) : Prop where
  tags : ∀ u, s.tag? u = t.tag? u
  joined : ∀ u, s.addedTime? u id = t.addedTime? u id
  log : s.log.filter (·.subject = id) = t.log.filter (·.subject = id)

variable {s t u : TagStore} {id other : SubjectId}

namespace Alike

theorem refl (s : TagStore) : s.Alike id s :=
  ⟨fun _ => rfl, fun _ => rfl, rfl⟩

theorem symm (h : s.Alike id t) : t.Alike id s :=
  ⟨fun v => (h.tags v).symm, fun v => (h.joined v).symm, h.log.symm⟩

theorem trans (first : s.Alike id t) (second : t.Alike id u) : s.Alike id u :=
  ⟨fun v => (first.tags v).trans (second.tags v), fun v => (first.joined v).trans (second.joined v),
    first.log.trans second.log⟩

theorem of_eq (rolls : s.rolls = t.rolls) (log : s.log = t.log) : s.Alike id t :=
  ⟨fun _ => tag?_congr rolls, fun v => by simp only [addedTime?, rolls], by rw [log]⟩

theorem isTagged (h : s.Alike id t) (v : TagId) : s.isTagged v id = t.isTagged v id :=
  congrArg Option.isSome (h.joined v)

/-- Two stores stay in agreement when the subject leaves a tag in both. -/
theorem remove (h : s.Alike id t) (tag : TagId) : (s.remove tag id).Alike id (t.remove tag id) where
  tags v := by rw [tag?_remove, tag?_remove, h.tags]
  joined v := by rw [addedTime?_remove, addedTime?_remove, h.joined]
  log := by
    rw [log_remove, log_remove, h.joined]
    split
    · rw [List.filter_cons, List.filter_cons, h.log]
    · exact h.log

/-- Two stores stay in agreement when the subject joins a tag in both. -/
theorem add (h : s.Alike id t) (now : Instant) (tag : TagId) :
    (s.add now tag id).Alike id (t.add now tag id) where
  tags v := by rw [tag?_add, tag?_add, h.tags]
  joined v := by rw [addedTime?_add, addedTime?_add, h.tags, h.joined, h.joined]
  log := by
    rw [log_add, log_add, h.tags, h.joined]
    split
    · rw [List.filter_cons, List.filter_cons, h.log]
    · exact h.log

end Alike

/-- A subject does not notice that another one leaves a tag. -/
theorem alike_remove (s : TagStore) (tag : TagId) (apart : other ≠ id) :
    s.Alike id (s.remove tag other) where
  tags _ := (tag?_remove ..).symm
  joined _ := ((addedTime?_remove ..).trans (if_neg fun same => apart same.2)).symm
  log := by
    rw [log_remove]
    split
    · rw [List.filter_cons_of_neg]
      exact fun same => apart (of_decide_eq_true same)
    · rfl

/-- A subject does not notice that another one joins a tag. -/
theorem alike_add (s : TagStore) (now : Instant) (tag : TagId) (apart : other ≠ id) :
    s.Alike id (s.add now tag other) where
  tags _ := (tag?_add ..).symm
  joined _ := ((addedTime?_add ..).trans (if_neg fun same => apart same.2.1)).symm
  log := by
    rw [log_add]
    split
    · rw [List.filter_cons_of_neg]
      exact fun same => apart (of_decide_eq_true same)
    · rfl

end TagStore

/-- Two ledgers agree on a subject: on what its evaluations see besides tags, on its memberships and
their changes, and on what is kept of its additions. -/
structure Ledger.Alike (w : World) (r : SubjectRecord) (l l' : Ledger) : Prop where
  view : (l.services.view w r).Alike (l'.services.view w r)
  store : l.services.store.Alike r.id l'.services.store
  history : ∀ u, l.history.last? u r.id = l'.history.last? u r.id

/-- A subject with the identity of the record, if there is one, has this record. -/
def World.Describes (w : World) (r : SubjectRecord) : Prop :=
  ∀ subject, w.subjects.get? r.id = some subject → subject.record = r

variable {w : World} {book : Rulebook} {c : Constraint} {r : SubjectRecord} {l l' l'' : Ledger}

namespace Ledger

namespace Alike

theorem refl (l : Ledger) : l.Alike w r l :=
  ⟨.of_eq rfl, .refl _, fun _ => rfl⟩

theorem symm (h : l.Alike w r l') : l'.Alike w r l :=
  ⟨h.view.symm, h.store.symm, fun u => (h.history u).symm⟩

theorem trans (first : l.Alike w r l') (second : l'.Alike w r l'') : l.Alike w r l'' :=
  ⟨first.view.trans second.view, first.store.trans second.store,
    fun u => (first.history u).trans (second.history u)⟩

/-- A constraint that counts no members has the same truth in both. -/
theorem truth (h : l.Alike w r l') (uncounted : c.Uncounted) :
    c.truth w r l.services = c.truth w r l'.services := by
  cases text : c.expr? with
  | none => simp only [Constraint.truth, text]
  | some e =>
    have tags : l.services.store.tagsOf r.id = l'.services.store.tagsOf r.id :=
      TagStore.tagsOf_congr h.store.tags h.store.joined
    have like : Scene.Like ⟨w, c.tag, r, l.services.store.tagsOf r.id⟩
        ⟨w, c.tag, r, l.services.store.tagsOf r.id⟩ := ⟨rfl, rfl, rfl, fun _ => rfl⟩
    rw [Constraint.truth_eq_reading text, Constraint.truth_eq_reading text, ← tags]
    refine congrArg Value.truth (e.reading_congr like h.view (fun call mem => ?_) fun k _ => ?_)
    · exact ⟨uncounted e text call mem, fun _ => rfl, fun _ => rfl⟩
    · exact Eval.sameNumber_of_addedTime like (h.store.joined c.tag) k

end Alike

/-! ### Other subjects -/

variable {who : SubjectRecord → Prop} {ids : List SubjectId} {other : SubjectRecord}

theorem tested_spares (l : Ledger) (w : World) (c : Constraint) (apart : other.id ≠ r.id) :
    l.services.Spares w r.id (l.tested w c other).services := by
  rcases l.tested_services w c other with same | ⟨e, sc, rfl, rfl, same⟩
  · rw [same]
    exact .refl _
  · rw [same]
    exact ((e.holds_reads sc).keeps { services := l.services }).spares apart

/-- A step for another subject leaves all that concerns a subject as it is. -/
theorem Step.alike (h : l.Step w book other ids l') (stamped : l.services.Stamped)
    (apart : other.id ≠ r.id) : l.Alike w r l' := by
  cases h with
  | test c =>
    have seen := (l.tested_spares w c apart).alike stamped (tested_stamped stamped c other)
    refine ⟨seen, ?_, fun u => by rw [l.tested_history w c other]⟩
    exact .of_eq (l.tested_rolls w c other).symm (l.tested_log w c other).symm
  | leave c =>
    exact ⟨Services.alike_mapStore _ _ _ _, TagStore.alike_remove _ _ apart, fun _ => rfl⟩
  | join c =>
    refine ⟨Services.alike_mapStore _ _ _ _, TagStore.alike_add _ _ _ apart, fun u => ?_⟩
    exact (AddHistory.last?_note _ _ _ _ fun same => apart same.2).symm

/-- Steps for other subjects leave all that concerns a subject as it is. -/
theorem Steps.alike (h : l.Steps w book who ids l') (stamped : l.services.Stamped)
    (apart : ∀ other, who other → other.id ≠ r.id) : l.Alike w r l' := by
  induction h with
  | refl => exact .refl l
  | step before asked last ih =>
    exact ih.trans (last.alike (before.stamped stamped) (apart _ asked))

/-! ### The subject itself -/

namespace Alike

/-- Two ledgers stay in agreement when the subject is tested in both. -/
theorem tested (h : l.Alike w r l') (c : Constraint) :
    (l.tested w c r).Alike w r (l'.tested w c r) := by
  have kept (l : Ledger) : l.Alike w r (l.tested w c r) := by
    have untouched := Pass.tested_untouched w c r { ledger := l }
    refine ⟨.of_eq untouched.view.symm, ?_, fun u => by rw [l.tested_history w c r]⟩
    exact .of_eq (l.tested_rolls w c r).symm (l.tested_log w c r).symm
  exact (kept l).symm.trans (h.trans (kept l'))

theorem mapStore (h : l.Alike w r l') {f g : TagStore → TagStore}
    (store : (f l.services.store).Alike r.id (g l'.services.store)) :
    ({ l with services := l.services.mapStore f } : Ledger).Alike w r
      { l' with services := l'.services.mapStore g } where
  view := (Services.alike_mapStore l.services _ _ f).symm.trans
    (h.view.trans (Services.alike_mapStore l'.services _ _ g))
  store := store
  history := h.history

theorem left (h : l.Alike w r l') (tag : TagId) :
    (l.left tag r.id).Alike w r (l'.left tag r.id) :=
  h.mapStore (h.store.remove tag)

theorem joined (h : l.Alike w r l') (tag : TagId) :
    (l.joined w tag r.id).Alike w r (l'.joined w tag r.id) where
  view := (h.mapStore (h.store.add w.now tag)).view
  store := h.store.add w.now tag
  history u := by
    by_cases same : tag = u
    · subst same
      exact (AddHistory.last?_note_self ..).trans (AddHistory.last?_note_self ..).symm
    · exact (AddHistory.last?_note_of_ne _ _ _ same).trans
        ((h.history u).trans (AddHistory.last?_note_of_ne _ _ _ same).symm)

end Alike

end Ledger

/-- Two states of a pass agree on a subject. -/
structure PassState.Alike (w : World) (r : SubjectRecord) (s s' : PassState) : Prop where
  ledger : s.ledger.Alike w r s'.ledger
  visited : s.visited = s'.visited

namespace Pass

variable {s s' : PassState} {id : SubjectId}

theorem removed_alike (h : s.Alike w r s') :
    (removed book c r.id s).Alike w r (removed book c r.id s') := by
  unfold removed
  rw [h.ledger.store.isTagged]
  split
  · exact ⟨h.ledger.left c.tag, h.visited⟩
  · exact h

theorem added_alike (h : s.Alike w r s') :
    (added w book c r.id s).Alike w r (added w book c r.id s') := by
  have recent : isRecent w book c r.id s.ledger.history = isRecent w book c r.id s'.ledger.history := by
    simp only [isRecent, h.ledger.history]
  unfold added
  rw [recent]
  split
  · exact h
  · exact ⟨h.ledger.joined c.tag, h.visited⟩

theorem tested_alike (h : s.Alike w r s') (c : Constraint) :
    (tested w c r s).Alike w r (tested w c r s') := by
  rw [tested_eq, tested_eq]
  exact ⟨h.ledger.tested c, h.visited⟩

/-- Deciding constraints that count no members keeps two states in agreement. The induction is on the
depth of the dependencies. -/
theorem decided_alike (others : ∀ tag d, book.constraints.get? tag = some d → d.Uncounted)
    (depth : Nat) (check : Bool) (uncounted : c.Uncounted) (h : s.Alike w r s') :
    (decided w book r depth check c s).Alike w r (decided w book r depth check c s') := by
  induction depth using Nat.strongRecOn generalizing check c s s' with
  | ind depth ih =>
    have tested := tested_alike h c
    unfold decided
    dsimp only
    rw [h.visited, h.ledger.truth uncounted, tested.ledger.store.isTagged]
    split
    · exact h
    split
    · exact removed_alike tested
    split
    · exact tested
    split
    · next depth' d ds deps =>
      have marked : PassState.Alike w r
          { Pass.tested w c r s with visited := c.tag :: (Pass.tested w c r s).visited }
          { Pass.tested w c r s' with visited := c.tag :: (Pass.tested w c r s').visited } :=
        ⟨tested.ledger, congrArg (c.tag :: ·) tested.visited⟩
      refine ih depth' (Nat.lt_succ_self _) false uncounted (List.foldl_rel marked ?_)
      intro dep mem t t' alike
      obtain ⟨tag, -, found, -⟩ := of_mem_firsts (deps ▸ mem)
      exact ih depth' (Nat.lt_succ_self _) true (others tag dep found) alike
    · exact added_alike tested

/-- Deciding a constraint for other subjects leaves all that concerns a subject as it is. -/
theorem decidedEach_alike (filed : w.Filed) (check : Bool) {ids : List SubjectId}
    (absent : r.id ∉ ids) (stamped : s.ledger.services.Stamped) :
    s.ledger.Alike w r (ids.foldl (decidedFor w book c check) s).ledger := by
  obtain ⟨_, steps, _⟩ := decidedEach_steps w book c check ids s
  refine steps.alike stamped fun other recorded same => absent ?_
  exact same ▸ recorded.asked filed

theorem decidedEach_stamped (check : Bool) (ids : List SubjectId)
    (stamped : s.ledger.services.Stamped) :
    (ids.foldl (decidedFor w book c check) s).ledger.services.Stamped := by
  obtain ⟨_, steps, _⟩ := decidedEach_steps w book c check ids s
  exact steps.stamped stamped

/-- Deciding a constraint for the subject keeps two ledgers in agreement. -/
theorem decidedFor_alike (others : ∀ tag d, book.constraints.get? tag = some d → d.Uncounted)
    (known : w.Describes r) (check : Bool) (uncounted : c.Uncounted)
    (h : s.ledger.Alike w r s'.ledger) :
    (decidedFor w book c check s r.id).ledger.Alike w r (decidedFor w book c check s' r.id).ledger := by
  unfold decidedFor
  cases found : w.subjects.get? r.id with
  | none => exact h
  | some subject =>
    dsimp only
    split
    · exact h
    · rw [known subject found]
      have clean : PassState.Alike w r { s with visited := [] } { s' with visited := [] } := ⟨h, rfl⟩
      exact (decided_alike others _ check uncounted clean).ledger

/-- Applying a constraint to several subjects does to each of them what applying it to that one
does. -/
theorem swept_alike (filed : w.Filed)
    (others : ∀ tag d, book.constraints.get? tag = some d → d.Uncounted)
    (known : w.Describes r) {ids : List SubjectId} (distinct : ids.Nodup) (mem : r.id ∈ ids)
    (check : Bool) (uncounted : c.Uncounted) (stamped : l.services.Stamped) (h : l.Alike w r l') :
    (swept w book check ids l c).Alike w r (swept w book check [r.id] l' c) := by
  unfold swept
  split
  · obtain ⟨before, after, rfl⟩ := List.append_of_mem mem
    obtain ⟨-, rest, apart⟩ := List.nodup_append.1 distinct
    have absent : r.id ∉ before := fun mem => apart _ mem _ List.mem_cons_self rfl
    have absent' : r.id ∉ after := (List.nodup_cons.1 rest).1
    rw [List.foldl_append, List.foldl_cons]
    have first : l.Alike w r (before.foldl (decidedFor w book c check) { ledger := l }).ledger :=
      decidedEach_alike (s := { ledger := l }) filed check absent stamped
    refine .trans (.symm ?_) (decidedFor_alike others known check uncounted (first.symm.trans h))
    exact decidedEach_alike filed check absent'
      (decidedEach_stamped check [r.id] (decidedEach_stamped check before stamped))
  · exact h

theorem swept_stamped (check : Bool) (ids : List SubjectId) (stamped : l.services.Stamped) :
    (swept w book check ids l c).services.Stamped := by
  unfold swept
  split
  · exact decidedEach_stamped check ids stamped
  · exact stamped

/-- Applying several constraints in turn to several subjects does to each of them what applying them to
that one does. -/
theorem foldl_swept_alike (filed : w.Filed)
    (others : ∀ tag d, book.constraints.get? tag = some d → d.Uncounted)
    (known : w.Describes r) {ids : List SubjectId} (distinct : ids.Nodup) (mem : r.id ∈ ids)
    (check : Bool) {cs : List Constraint} (uncounted : ∀ c ∈ cs, c.Uncounted)
    (stamped : l.services.Stamped) (h : l.Alike w r l') :
    (cs.foldl (swept w book check ids) l).services.Stamped ∧
      (cs.foldl (swept w book check ids) l).Alike w r (cs.foldl (swept w book check [r.id]) l') :=
  List.foldl_rel (r := fun (l l' : Ledger) => l.services.Stamped ∧ l.Alike w r l') ⟨stamped, h⟩
    fun c of _ _ ⟨stamped, h⟩ => ⟨swept_stamped check ids stamped,
      swept_alike filed others known distinct mem check (uncounted c of) stamped h⟩

end Pass

theorem World.Filed.exists_record (filed : w.Filed) (id : SubjectId) :
    ∃ r : SubjectRecord, r.id = id ∧ w.Describes r := by
  cases found : w.subjects.get? id with
  | none =>
    refine ⟨{ id := id }, rfl, fun subject there => ?_⟩
    rw [found] at there
    cases there
  | some subject =>
    have self := filed id subject found
    refine ⟨subject.record, self, fun other there => ?_⟩
    rw [self, found] at there
    cases there
    rfl

namespace Registry

variable {registry : Registry} {ids : List SubjectId}

/-- A pass over several subjects does to each of them what a pass over that one does. -/
theorem applyToMany_alike (filed : w.Filed) (stamped : registry.ledger.services.Stamped)
    (uncounted : ∀ tag c, registry.constraints.get? tag = some c → c.Uncounted)
    (running : registry.stopping = false) (opened : registry.gate.isOpen = true) (initial : Bool)
    (distinct : ids.Nodup) (known : w.Describes r) (mem : r.id ∈ ids) :
    (registry.applyToMany w initial ids).2.ledger.Alike w r
      (registry.applyToMany w initial [r.id]).2.ledger := by
  have each (c : Constraint) (mem : c ∈ registry.snapshot) : c.Uncounted := by
    obtain ⟨tag, found⟩ := registered_of_mem_snapshot mem
    exact uncounted tag c found
  rw [applyToMany_eq running opened, applyToMany_eq running opened]
  refine (List.foldl_rel (r := fun (l l' : Ledger) => l.services.Stamped ∧ l.Alike w r l')
    ⟨stamped, .refl _⟩ ?_).2
  rintro check - l l' ⟨stamped, h⟩
  exact Pass.foldl_swept_alike filed uncounted known distinct mem check each stamped h

/-- What a pass logs concerns its subjects. -/
theorem applyToMany_log (filed : w.Filed) (registry : Registry) (initial : Bool)
    (ids : List SubjectId) : ∃ made : List Change,
      (registry.applyToMany w initial ids).2.store.log = made ++ registry.store.log ∧
        ∀ change ∈ made, change.subject ∈ ids := by
  obtain ⟨made, log, own⟩ := (applyToMany_steps registry w initial ids).ledger.log
  refine ⟨made, log, fun change mem => ?_⟩
  obtain ⟨r, recorded, same⟩ := own change mem
  exact same ▸ recorded.asked filed

/-- A pass does nothing to other subjects. -/
theorem alike_applyToMany (filed : w.Filed) (stamped : registry.ledger.services.Stamped)
    (initial : Bool) (absent : r.id ∉ ids) :
    registry.ledger.Alike w r (registry.applyToMany w initial ids).2.ledger :=
  (applyToMany_steps registry w initial ids).ledger.alike stamped fun _ recorded same =>
    absent (same ▸ recorded.asked filed)

/-- It makes no difference to a subject in which order a pass takes subjects. -/
theorem applyToMany_perm (filed : w.Filed) (stamped : registry.ledger.services.Stamped)
    (uncounted : ∀ tag c, registry.constraints.get? tag = some c → c.Uncounted)
    (running : registry.stopping = false) (opened : registry.gate.isOpen = true) (initial : Bool)
    (distinct : ids.Nodup) (known : w.Describes r) {ids' : List SubjectId} (same : ids.Perm ids') :
    (registry.applyToMany w initial ids).2.ledger.Alike w r
      (registry.applyToMany w initial ids').2.ledger := by
  by_cases mem : r.id ∈ ids
  · have first := applyToMany_alike filed stamped uncounted running opened initial distinct known mem
    have second := applyToMany_alike filed stamped uncounted running opened initial
      (same.nodup_iff.1 distinct) known (same.mem_iff.1 mem)
    exact first.trans second.symm
  · have first := alike_applyToMany filed stamped initial mem
    have second := alike_applyToMany filed stamped initial (mt same.mem_iff.2 mem)
    exact first.symm.trans second

/-- Subjects do not influence each other. Over several subjects, a pass of constraints that count no
members leaves each of them with the tags that a pass over it alone leaves it with, at the same times,
logs the same changes of it in the same order, and keeps the same of its additions. The order of the
subjects makes no difference to any membership. -/
theorem applyToMany_separate (filed : w.Filed) (stamped : registry.ledger.services.Stamped)
    (uncounted : ∀ tag c, registry.constraints.get? tag = some c → c.Uncounted)
    (running : registry.stopping = false) (opened : registry.gate.isOpen = true) (initial : Bool)
    (distinct : ids.Nodup) :
    (∀ id ∈ ids,
      let many := (registry.applyToMany w initial ids).2
      let alone := (registry.applyToMany w initial [id]).2
      many.store.tagsOf id = alone.store.tagsOf id ∧
        (∀ tag, many.store.addedTime? tag id = alone.store.addedTime? tag id) ∧
        (∃ changes own : List Change, many.store.log = changes ++ registry.store.log ∧
          alone.store.log = own ++ registry.store.log ∧
          changes.filter (·.subject = id) = own) ∧
        ∀ tag, many.ledger.history.last? tag id = alone.ledger.history.last? tag id) ∧
      ∀ ids' : List SubjectId, ids.Perm ids' →
        (registry.applyToMany w initial ids).2.store.rolls =
          (registry.applyToMany w initial ids').2.store.rolls := by
  constructor
  · intro id mem
    obtain ⟨r, rfl, known⟩ := filed.exists_record id
    have alike := applyToMany_alike filed stamped uncounted running opened initial distinct known mem
    obtain ⟨changes, log, -⟩ := applyToMany_log filed registry initial ids
    obtain ⟨own, log', mine⟩ := applyToMany_log filed registry initial [r.id]
    refine ⟨TagStore.tagsOf_congr alike.store.tags alike.store.joined, alike.store.joined,
      ⟨changes, own, log, log', ?_⟩, alike.history⟩
    have all : own.filter (·.subject = r.id) = own :=
      List.filter_eq_self.2 fun change mem => decide_eq_true (List.mem_singleton.1 (mine change mem))
    have same : (registry.applyToMany w initial ids).2.store.log.filter (·.subject = r.id) =
        (registry.applyToMany w initial [r.id]).2.store.log.filter (·.subject = r.id) :=
      alike.store.log
    rw [log, log', List.filter_append, List.filter_append, all] at same
    exact List.append_cancel_right same
  · intro ids' same
    have alike (id : SubjectId) :
        (registry.applyToMany w initial ids).2.store.Alike id
          (registry.applyToMany w initial ids').2.store := by
      obtain ⟨r, rfl, known⟩ := filed.exists_record id
      exact (applyToMany_perm filed stamped uncounted running opened initial distinct known same).store
    exact TagStore.rolls_ext (alike ⟨0⟩).tags fun u id => (alike id).joined u

/-- A large subject and a small one. -/
def largeAndSmall : World where
  subjects := (({} : Dict SubjectId Subject).insert ⟨1⟩
    { record := { id := ⟨1⟩, size := 209715200 } }).insert ⟨2⟩ { record := { id := ⟨2⟩ } }

/-- A tag for large subjects, and one for the others. -/
def sorting : Registry :=
  let tagged := Registry.mapStore {} fun s =>
    (s.insertTag { id := ⟨1⟩, name := "Large" }).insertTag { id := ⟨2⟩, name := "Other" }
  let first := (tagged.setConstraint largeAndSmall ⟨1⟩ "sizemb >= 100" "" true).2
  (first.setConstraint largeAndSmall ⟨2⟩ "!hasTag(\"Large\")" "" true).2

theorem sorting_separate : largeAndSmall.Filed ∧ sorting.ledger.services.Stamped ∧
    (∀ tag c, sorting.constraints.get? tag = some c → c.Uncounted) ∧ sorting.stopping = false ∧
    sorting.gate.isOpen = true ∧
    (sorting.applyToMany largeAndSmall true [⟨1⟩, ⟨2⟩]).2.store.log =
      [.added ⟨2⟩ ⟨2⟩, .added ⟨1⟩ ⟨1⟩] ∧
    (sorting.applyToMany largeAndSmall true [⟨1⟩, ⟨2⟩]).2.store.tagsOf ⟨2⟩ =
      (sorting.applyToMany largeAndSmall true [⟨2⟩]).2.store.tagsOf ⟨2⟩ ∧
    (sorting.applyToMany largeAndSmall true [⟨1⟩, ⟨2⟩]).2.store.rolls =
      (sorting.applyToMany largeAndSmall true [⟨2⟩, ⟨1⟩]).2.store.rolls := by
  have filed : largeAndSmall.Filed := .of_entries (by decide)
  have stamped : sorting.ledger.services.Stamped := by
    unfold sorting
    exact setConstraint_stamped _ _ _ _ _ (setConstraint_stamped _ _ _ _ _ (.empty _))
  have uncounted (tag : TagId) (c : Constraint) (found : sorting.constraints.get? tag = some c) :
      c.Uncounted := by
    have each : ∀ entry ∈ sorting.constraints.entries, entry.2.Uncounted := by decide +kernel
    exact each _ (Dict.mem_entries.2 found)
  have running : sorting.stopping = false := by decide +kernel
  have opened : sorting.gate.isOpen = true := by decide +kernel
  have distinct : ([⟨1⟩, ⟨2⟩] : List SubjectId).Nodup := by decide
  obtain ⟨each, swap⟩ :=
    applyToMany_separate filed stamped uncounted running opened true distinct
  exact ⟨filed, stamped, uncounted, running, opened, by decide +kernel, (each ⟨2⟩ (by decide)).1,
    swap _ (List.Perm.swap ..)⟩

/-- A tag for a single subject. -/
def exclusive : Registry :=
  let tagged := Registry.mapStore {} (·.insertTag { id := ⟨1⟩, name := "First" })
  (tagged.setConstraint largeAndSmall ⟨1⟩ "countTag(\"First\") < 1" "" true).2

/-- Where members are counted, it is the order of the subjects that decides which one joins. -/
theorem exclusive_depends_on_order :
    (exclusive.applyToMany largeAndSmall false [⟨1⟩, ⟨2⟩]).2.store.log = [.added ⟨1⟩ ⟨1⟩] ∧
    (exclusive.applyToMany largeAndSmall false [⟨2⟩, ⟨1⟩]).2.store.log = [.added ⟨1⟩ ⟨2⟩] := by
  decide +kernel

end Registry

end TagRules
