import TagRules.Proofs.Registry.Justified
import TagRules.Proofs.Registry.Settled

/-!
# Deciding a constraint when its turn has come

The turn of a constraint comes when all constraints that it depends on are settled. Deciding it then
moves the subject in or out of its tag at most once, and afterwards it is settled
(`Pass.decided_settles`). The constraints that are decided before it change nothing, since deciding
a settled constraint changes nothing (`Pass.decided_idle`).
-/

namespace TagRules

/-- What deciding a settled constraint leaves as it was. -/
structure PassState.Idle (w : World) (r : SubjectRecord) (s t : PassState) : Prop where
  view : t.ledger.services.view w r = s.ledger.services.view w r
  store : t.ledger.services.store.log = s.ledger.services.store.log
  history : t.ledger.history = s.ledger.history
  touched : t.touched = s.touched

namespace PassState.Idle

variable {w : World} {r : SubjectRecord} {s t u : PassState}

theorem refl (s : PassState) : s.Idle w r s :=
  ⟨rfl, rfl, rfl, rfl⟩

theorem trans (first : s.Idle w r t) (second : t.Idle w r u) : s.Idle w r u :=
  ⟨second.view.trans first.view, second.store.trans first.store,
    second.history.trans first.history, second.touched.trans first.touched⟩

theorem of_untouched (h : s.Untouched w r t) : s.Idle w r t :=
  ⟨h.view, h.log, h.history, h.touched⟩

theorem rolls (h : s.Idle w r t) :
    t.ledger.services.store.rolls = s.ledger.services.store.rolls :=
  congrArg View.rolls h.view

/-- Constraints stay settled. -/
theorem settled (h : s.Idle w r t) {c : Constraint} (settled : c.Settled w r s.ledger.services) :
    c.Settled w r t.ledger.services :=
  settled.congr (Constraint.truth_congr h.view) (TagStore.isTagged_congr h.rolls)

end PassState.Idle

/-- Services that differ from others in the membership of a subject in one tag, and in nothing else
that constraints can see. -/
structure Services.Moves (w : World) (r : SubjectRecord) (tag : TagId) (s t : Services) : Prop where
  alike : (s.view w r).Alike (t.view w r)
  tags : ∀ u, t.store.tag? u = s.store.tag? u
  others : ∀ u, tag ≠ u → t.store.isTagged u r.id = s.store.isTagged u r.id

namespace Services.Moves

variable {w : World} {r : SubjectRecord} {tag : TagId} {s t u : Services}

theorem of_view (h : t.view w r = s.view w r) : Moves w r tag s t := by
  have rolls : t.store.rolls = s.store.rolls := congrArg View.rolls h
  exact ⟨.of_eq h.symm, fun _ => TagStore.tag?_congr rolls,
    fun _ _ => TagStore.isTagged_congr rolls⟩

theorem trans (first : Moves w r tag s t) (second : Moves w r tag t u) : Moves w r tag s u where
  alike := first.alike.trans second.alike
  tags v := (second.tags v).trans (first.tags v)
  others v other := (second.others v other).trans (first.others v other)

theorem add (s : Services) (tag : TagId) : Moves w r tag s (s.mapStore (·.add w.now tag r.id)) :=
  ⟨alike_mapStore s _ _ _, fun u => TagStore.tag?_add _ _ _ _ u,
    fun _ other => TagStore.isTagged_add_of_ne _ _ _ other⟩

theorem remove (s : Services) (tag : TagId) : Moves w r tag s (s.mapStore (·.remove tag r.id)) :=
  ⟨alike_mapStore s _ _ _, fun u => TagStore.tag?_remove _ _ _ u,
    fun _ other => TagStore.isTagged_remove_of_ne _ _ other⟩

/-- A move in a constrained tag. -/
theorem drift (h : Moves w r tag s t) {constraints : Dict TagId Constraint}
    (constrained : constraints.contains tag = true) : s.Drift w r constraints t where
  alike := h.alike
  tags := h.tags
  others u free := h.others u fun same => by simp [← same, constrained] at free

end Services.Moves

/-- When a subject joins a tag, all constraints that the one of the tag depends on, directly or
through others, are settled. -/
def Change.Prepared (w : World) (r : SubjectRecord) (constraints : Dict TagId Constraint)
    (s : Services) (change : Change) : Prop :=
  change.subject = r.id ∧ (change.isAddition = true → ∀ tag c,
    Constraint.Reaches constraints change.tag tag → constraints.get? tag = some c →
      c.isReady = true → c.Settled w r s)

/-- What deciding a constraint may change: the membership in its tag and when it was added to. The
change meets a condition. -/
structure PassState.Turn (w : World) (r : SubjectRecord) (P : Services → Change → Prop)
    (tag : TagId) (s t : PassState) : Prop where
  moves : s.ledger.services.Moves w r tag t.ledger.services
  history : ∀ u, tag ≠ u → t.ledger.history.last? u r.id = s.ledger.history.last? u r.id
  progress : ∃ l, Progress w.now P s.ledger.services l t.ledger.services

namespace PassState.Turn

variable {w : World} {r : SubjectRecord} {P : Services → Change → Prop} {tag : TagId}
  {s t u : PassState}

theorem of_idle (h : s.Idle w r t) : s.Turn w r P tag t :=
  ⟨.of_view h.view, fun _ _ => by rw [h.history], [], .quiet (.refl _) h.rolls h.store⟩

theorem after_idle (first : s.Idle w r t) (second : t.Turn w r P tag u) :
    s.Turn w r P tag u where
  moves := (Services.Moves.of_view first.view).trans second.moves
  history v other := (second.history v other).trans (by rw [first.history])
  progress := by
    obtain ⟨l, progress⟩ := second.progress
    exact ⟨l ++ [], .trans (.quiet (.refl _) first.rolls first.store) progress⟩

end PassState.Turn

/-- The turn of a constraint has come: the constraints that it tests are settled, it does not test its
own tag, and the subject, if it is not in that tag, may be added to it. Either change meets a
condition. -/
structure Constraint.Due (w : World) (r : SubjectRecord) (book : Rulebook)
    (P : Services → Change → Prop) (s : Ledger) (c : Constraint) : Prop where
  stable : ∀ t, s.services.Moves w r c.tag t → c.truth w r t = c.truth w r s.services
  present : (s.services.store.tag? c.tag).isSome = true
  rested : s.services.store.isTagged c.tag r.id = false →
    Pass.isRecent w book c r.id s.history = false
  below : ∀ tag d, Constraint.Needs book.constraints c.tag tag →
    book.constraints.get? tag = some d → d.isReady = true → d.Settled w r s.services
  joins : ∀ t : Services, t.view w r = s.services.view w r → P t (.added c.tag r.id)
  leaves : ∀ t : Services, P t (.removed c.tag r.id)

namespace Constraint.Due

variable {w : World} {r : SubjectRecord} {book : Rulebook} {P : Services → Change → Prop}
  {c : Constraint}

theorem of_idle {s t : PassState} (due : c.Due w r book P s.ledger) (idle : s.Idle w r t) :
    c.Due w r book P t.ledger where
  stable u moves := (due.stable u ((Services.Moves.of_view idle.view).trans moves)).trans
    (truth_congr idle.view).symm
  present := TagStore.tag?_congr idle.rolls ▸ due.present
  rested absent := idle.history ▸ due.rested ((TagStore.isTagged_congr idle.rolls).symm.trans absent)
  below tag d needs found ready := idle.settled (due.below tag d needs found ready)
  joins u same := due.joins u (same.trans idle.view)
  leaves := due.leaves

/-- If all constraints below are settled, then the subject is prepared to join. -/
theorem of_below {s : Ledger}
    (stable : ∀ t, s.services.Moves w r c.tag t → c.truth w r t = c.truth w r s.services)
    (present : (s.services.store.tag? c.tag).isSome = true)
    (rested : s.services.store.isTagged c.tag r.id = false →
      Pass.isRecent w book c r.id s.history = false)
    (below : ∀ tag d, Reaches book.constraints c.tag tag → book.constraints.get? tag = some d →
      d.isReady = true → d.Settled w r s.services) :
    c.Due w r book (Change.Prepared w r book.constraints) s where
  stable := stable
  present := present
  rested := rested
  below tag d needs := below tag d (.single needs)
  joins t same := by
    refine ⟨rfl, fun _ tag d reaches found ready => ?_⟩
    have rolls : t.store.rolls = s.services.store.rolls := congrArg View.rolls same
    exact (below tag d reaches found ready).congr (truth_congr same) (TagStore.isTagged_congr rolls)
  leaves _ := ⟨rfl, fun isAddition => nomatch isAddition⟩

end Constraint.Due

theorem AddHistory.last?_note_self (h : AddHistory) (tag : TagId) (id : SubjectId) (ticks : Nat) :
    (h.note tag id ticks).last? tag id = some ticks := by
  unfold last? note
  rw [Dict.get?_insert_self, Option.bind_some, Dict.get?_insert_self]

theorem AddHistory.last?_note (h : AddHistory) (tag : TagId) (id : SubjectId) (ticks : Nat)
    {u : TagId} {other : SubjectId} (apart : ¬(tag = u ∧ id = other)) :
    (h.note tag id ticks).last? u other = h.last? u other := by
  by_cases same : tag = u
  · subst same
    have other : id ≠ other := fun same => apart ⟨rfl, same⟩
    unfold last? note
    rw [Dict.get?_insert_self, Option.bind_some, Dict.get?_insert_of_ne _ other]
    cases h.get? tag <;> rfl
  · exact congrArg (Option.bind · _) (Dict.get?_insert_of_ne _ same _)

theorem AddHistory.last?_note_of_ne (h : AddHistory) {tag u : TagId} (id : SubjectId) (ticks : Nat)
    (other : tag ≠ u) : (h.note tag id ticks).last? u id = h.last? u id :=
  h.last?_note tag id ticks fun same => other same.1

namespace Pass

variable {w : World} {book : Rulebook} {P : Services → Change → Prop} {c : Constraint}
  {r : SubjectRecord} {s t : PassState}

/-- Deciding a settled constraint is no more than a test. -/
theorem decided_untouched (book : Rulebook) (settled : c.Settled w r s.ledger.services) (depth : Nat)
    (check : Bool) : s.Untouched w r (decided w book r depth check c s) := by
  have kept := tested_untouched w c r s
  have step := decision w book r depth check c s
  generalize decided w book r depth check c s = t at step ⊢
  cases step with
  | skip => exact ⟨rfl, rfl, rfl, rfl, rfl⟩
  | leave truth =>
    have stays : removed book c r.id (tested w c r s) = tested w c r s := by
      unfold removed
      split
      · next h =>
        simp only [Bool.and_eq_true, kept.isTagged] at h
        have absent := settled.removes truth h.1.1
        simp [absent] at h
      · rfl
    rw [stays]
    exact kept
  | stay => exact kept
  | join truth allowed absent => simp [settled.adds truth allowed] at absent
  | defer truth allowed absent => simp [settled.adds truth allowed] at absent

/-- Deciding a settled constraint changes nothing. -/
theorem decided_idle (book : Rulebook) (settled : c.Settled w r s.ledger.services) (depth : Nat)
    (check : Bool) : s.Idle w r (decided w book r depth check c s) :=
  .of_untouched (decided_untouched book settled depth check)

/-- Deciding several settled constraints changes nothing. -/
theorem foldl_decided_idle (book : Rulebook) (deps : List Constraint)
    (settled : ∀ dep ∈ deps, dep.Settled w r s.ledger.services) (depth : Nat) (check : Bool) :
    s.Idle w r (deps.foldl (fun s dep => decided w book r depth check dep s) s) := by
  induction deps generalizing s with
  | nil => exact .refl s
  | cons dep deps ih =>
    have first := decided_idle book (settled dep List.mem_cons_self) depth check
    exact first.trans (ih fun d mem => first.settled (settled d (List.mem_cons_of_mem _ mem)))

/-- A constraint that does not hold is settled once the subject has left its tag. -/
theorem removed_settles (running : book.stopping = false)
    (due : c.Due w r book P s.ledger) (fails : c.truth w r s.ledger.services = false) :
    s.Turn w r P c.tag (removed book c r.id s) ∧
      c.Settled w r (removed book c r.id s).ledger.services := by
  unfold removed
  split
  · next h =>
    simp only [Bool.and_eq_true] at h
    have moves := Services.Moves.remove (w := w) (r := r) s.ledger.services c.tag
    have logged := TagStore.remove_of_isTagged h.1.2
    refine ⟨⟨moves, fun _ _ => rfl, _, .change (.refl _) (due.leaves _) rfl logged⟩, ?_, ?_⟩
    · intro holds
      rw [due.stable _ moves, fails] at holds
      cases holds
    · exact fun _ _ => TagStore.isTagged_remove_self _ _ _
  · next h =>
    refine ⟨.of_idle (.refl s), ?_, ?_⟩
    · intro holds
      rw [fails] at holds
      cases holds
    · intro _ allowed
      simpa [allowed, running] using h

/-- A constraint that holds is settled once the subject has joined its tag. -/
theorem added_settles (running : book.stopping = false)
    (due : c.Due w r book P s.ledger) (holds : c.truth w r s.ledger.services = true)
    (absent : s.ledger.services.store.isTagged c.tag r.id = false) :
    s.Turn w r P c.tag (added w book c r.id s) ∧
      c.Settled w r (added w book c r.id s).ledger.services := by
  have joins : (book.stopping || isRecent w book c r.id s.ledger.history) = false := by
    rw [running, due.rested absent, Bool.or_self]
  unfold added
  rw [if_neg (by simp [joins])]
  have moves := Services.Moves.add (w := w) (r := r) s.ledger.services c.tag
  have logged := (TagStore.add_of_not_isTagged w.now absent).resolve_left fun gone => by
    have present := due.present
    simp [TagStore.tag?, gone.1] at present
  refine ⟨⟨moves, fun u other => ?_, _, .change (.refl _) (due.joins _ rfl) rfl logged⟩, ?_, ?_⟩
  · exact AddHistory.last?_note_of_ne _ _ _ other
  · exact fun _ _ => TagStore.isTagged_add_self _ due.present
  · intro fails
    rw [due.stable _ moves, holds] at fails
    cases fails

/-- A dependency that is decided first belongs to a tag that the constraint needs. -/
theorem needs_of_mem_firsts (registered : book.constraints.get? c.tag = some c) {check : Bool}
    {dep : Constraint} (h : dep ∈ firsts book check c) :
    ∃ tag, Constraint.Needs book.constraints c.tag tag ∧
      book.constraints.get? tag = some dep ∧ dep.isReady = true := by
  obtain ⟨tag, dependsOn, found, ready⟩ := of_mem_firsts h
  exact ⟨tag, ⟨c, registered, dependsOn, by simp [Dict.contains, found]⟩, found, ready⟩

/-- A dependency that is decided first is one of the constraints that come before. -/
theorem settled_of_mem_firsts (registered : book.constraints.get? c.tag = some c)
    (due : c.Due w r book P s.ledger) {check : Bool} {dep : Constraint}
    (h : dep ∈ firsts book check c) : dep.Settled w r s.ledger.services := by
  obtain ⟨tag, edge, found, ready⟩ := needs_of_mem_firsts registered h
  exact due.below tag dep edge found ready

/-- Deciding a constraint when its turn has come settles it. If dependencies are decided first, that
changes nothing. -/
theorem decided_settles (running : book.stopping = false)
    (registered : book.constraints.get? c.tag = some c)
    (due : c.Due w r book P s.ledger) (depth : Nat) (check : Bool)
    (fresh : check = true → c.tag ∉ s.visited) :
    s.Turn w r P c.tag (decided w book r depth check c s) ∧
      c.Settled w r (decided w book r depth check c s).ledger.services := by
  have kept := tested_untouched w c r s
  have idle := PassState.Idle.of_untouched kept
  have joins {t : PassState} (idle : s.Idle w r t) (holds : c.truth w r s.ledger.services = true)
      (absent : s.ledger.services.store.isTagged c.tag r.id = false) :
      s.Turn w r P c.tag (added w book c r.id t) ∧
        c.Settled w r (added w book c r.id t).ledger.services := by
    have same := Constraint.truth_congr (c := c) idle.view
    have absent := (TagStore.isTagged_congr idle.rolls).trans absent
    obtain ⟨turn, settled⟩ := added_settles running (due.of_idle idle) (same.trans holds) absent
    exact ⟨turn.after_idle idle, settled⟩
  have step := decision w book r depth check c s
  generalize decided w book r depth check c s = t at step ⊢
  cases step with
  | skip visited => exact absurd visited.2 (fresh visited.1)
  | leave fails =>
    have same := Constraint.truth_congr (c := c) kept.view
    obtain ⟨turn, settled⟩ := removed_settles running (due.of_idle idle) (same.trans fails)
    exact ⟨turn.after_idle idle, settled⟩
  | stay holds done =>
    refine ⟨.of_idle idle, idle.settled ⟨fun _ => done, fun fails => ?_⟩⟩
    rw [holds] at fails
    cases fails
  | join holds _ absent => exact joins idle holds absent
  | @defer deeper holds allowed absent =>
    have noted : s.Idle w r { tested w c r s with visited := c.tag :: s.visited } :=
      ⟨kept.view, kept.log, kept.history, kept.touched⟩
    have before := noted.trans (foldl_decided_idle book (firsts book check c)
      (fun dep mem => noted.settled (settled_of_mem_firsts registered due mem)) deeper true)
    generalize (firsts book check c).foldl _ _ = m at before ⊢
    have kept := tested_untouched w c r m
    have idle := before.trans (.of_untouched kept)
    have same : c.truth w r m.ledger.services = true :=
      (Constraint.truth_congr before.view).trans holds
    have absent' : m.ledger.services.store.isTagged c.tag r.id = false :=
      (TagStore.isTagged_congr before.rolls).trans absent
    -- Dependencies are not decided a second time.
    have again := decision w book r deeper false c m
    generalize decided w book r deeper false c m = t at again ⊢
    cases again with
    | skip visited => cases visited.1
    | leave fails =>
      rw [same] at fails
      cases fails
    | stay _ done => simp [done allowed] at absent'
    | join => exact joins idle holds absent
    | defer _ _ _ _ some => exact absurd rfl some

end Pass

end TagRules
