import TagRules.Proofs.Registry.Sweeps

/-!
# Tags that have come to rest

A set of tags is closed if the constraints of its tags test memberships in the set only. If they are
all settled for a subject, then nothing that is decided changes a membership of the subject in the set
(`Ledger.Firm.decided_agree`), whatever goes on outside. In a sweep such a set grows by the tag of
each constraint that tests only tags of the set when its turn comes (`Ledger.Stage.sweep`). Tests of
groups leave no dependency, so the turn of a constraint may come before that of what it tests; a
second sweep goes on where the first one stopped.
-/

namespace TagRules

namespace Constraint

/-- Rules without cycles of dependencies for existing tags, compiled for the tags as they are, whose
expressions ask about tags that the subject carries. -/
structure Compatible (constraints : Dict TagId Constraint) (store : TagStore) : Prop where
  filed : Filed constraints
  acyclic : Acyclic constraints
  tags : ∀ tag, constraints.contains tag = true → (store.tag? tag).isSome = true
  upToDate : ∀ tag c, constraints.get? tag = some c → c.UpToDate constraints store
  byTag : ∀ tag c e, constraints.get? tag = some c → c.expr? = some e → e.ByTag

/-- A constraint depends on a tag, or tests a group of it. -/
def Mentions (store : TagStore) (c : Constraint) (u : TagId) : Prop :=
  u ∈ c.dependsOn ∨ ∃ e tag group, c.expr? = some e ∧ store.tag? u = some tag ∧
    tag.group = some group ∧ group ∈ e.groupNames

/-- No constraint of the tag can be applied. -/
def Free (constraints : Dict TagId Constraint) (u : TagId) : Prop :=
  ∀ d, constraints.get? u = some d → d.isReady = false

/-- The constraints of a set of tags mention tags of the set only; tags without a constraint that can
be applied are among them. -/
structure Closed (constraints : Dict TagId Constraint) (store : TagStore) (K : TagId → Prop) :
    Prop where
  free : ∀ u, Free constraints u → K u
  mentions : ∀ c, constraints.get? c.tag = some c → c.isReady = true → K c.tag →
    ∀ u, c.Mentions store u → K u

end Constraint

/-- Services that differ, as far as the constraints of a subject can see, at most in memberships
outside a set of tags. -/
structure Services.Agree (w : World) (r : SubjectRecord) (K : TagId → Prop) (s t : Services) :
    Prop where
  alike : (s.view w r).Alike (t.view w r)
  tags : ∀ u, t.store.tag? u = s.store.tag? u
  members : ∀ u, K u → t.store.isTagged u r.id = s.store.isTagged u r.id

namespace Services.Agree

variable {w : World} {r : SubjectRecord} {K : TagId → Prop} {s t u : Services}

theorem refl (s : Services) : Agree w r K s s :=
  ⟨.of_eq rfl, fun _ => rfl, fun _ _ => rfl⟩

theorem trans (first : Agree w r K s t) (second : Agree w r K t u) : Agree w r K s u where
  alike := first.alike.trans second.alike
  tags v := (second.tags v).trans (first.tags v)
  members v inside := (second.members v inside).trans (first.members v inside)

theorem of_view (h : t.view w r = s.view w r) : Agree w r K s t := by
  have rolls : t.store.rolls = s.store.rolls := congrArg View.rolls h
  exact ⟨.of_eq h.symm, fun _ => TagStore.tag?_congr rolls,
    fun _ _ => TagStore.isTagged_congr rolls⟩

/-- A move in a tag outside. -/
theorem of_moves {tag : TagId} (moves : s.Moves w r tag t) (outside : ¬K tag) : Agree w r K s t where
  alike := moves.alike
  tags := moves.tags
  members v inside := moves.others v fun same => outside (same ▸ inside)

/-- Two states with truthful caches look alike. -/
theorem of_truthful (known : w.Knows r) (first : s.Truthful w) (second : t.Truthful w)
    (tags : ∀ u, t.store.tag? u = s.store.tag? u)
    (members : ∀ u, K u → t.store.isTagged u r.id = s.store.isTagged u r.id) : Agree w r K s t := by
  refine ⟨?_, tags, members⟩
  rw [first.view_eq known, second.view_eq known]
  exact ⟨rfl, rfl, rfl⟩

end Services.Agree

/-- The constraints of a set of tags are settled for a subject. -/
structure Ledger.Firm (w : World) (r : SubjectRecord) (constraints : Dict TagId Constraint)
    (store : TagStore) (K : TagId → Prop) (l : Ledger) : Prop where
  tags : ∀ u, l.services.store.tag? u = store.tag? u
  settled : ∀ c, constraints.get? c.tag = some c → c.isReady = true → K c.tag →
    c.Settled w r l.services

section

variable {w : World} {r : SubjectRecord} {book : Rulebook} {store : TagStore} {K : TagId → Prop}
  {c : Constraint} {l l' : Ledger} {s : PassState}

/-- The truth of a constraint depends on memberships in the tags that it mentions, and in those that
no constraint governs. -/
theorem Constraint.Compatible.truth_eq {s t : Services}
    (compatible : Constraint.Compatible book.constraints store)
    (found : book.constraints.get? c.tag = some c) (tags : ∀ u, s.store.tag? u = store.tag? u)
    (free : ∀ u, Constraint.Free book.constraints u → K u)
    (mentions : ∀ u, c.Mentions store u → K u) (agree : s.Agree w r K t) :
    c.truth w r s = c.truth w r t := by
  have drift : s.Drift w r book.constraints t := by
    refine ⟨agree.alike, agree.tags, fun u unconstrained => agree.members u (free u fun d found => ?_)⟩
    simp [Dict.contains, found] at unconstrained
  cases compiled : c.expr? with
  | none => simp only [Constraint.truth, compiled]
  | some e =>
    rw [Constraint.truth_eq_reading compiled, Constraint.truth_eq_reading compiled]
    refine congrArg Value.truth
      ((compatible.byTag c.tag c e found compiled).reading_congr ?_ agree.alike ?_ ?_)
    · exact ⟨rfl, rfl, rfl, fun _ => rfl⟩
    · intro name tested
      exact (compatible.upToDate c.tag c found).any_name_eq compiled tags drift
        (fun u dep => agree.members u (mentions u (.inl dep))) tested
    · intro group tested
      rw [Bool.eq_iff_iff, TagStore.any_tagsOf, TagStore.any_tagsOf]
      have same {u : TagId} {tag : Tag} (there : store.tag? u = some tag)
          (grouped : (tag.group == some group) = true) :
          t.store.isTagged u r.id = s.store.isTagged u r.id := by
        refine agree.members u (mentions u (.inr ⟨e, tag, group, compiled, there, ?_, tested⟩))
        simpa using grouped
      constructor
      · rintro ⟨u, tag, there, grouped, member⟩
        refine ⟨u, tag, (agree.tags u).trans there, grouped, ?_⟩
        exact (same ((tags u).symm.trans there) grouped).trans member
      · rintro ⟨u, tag, there, grouped, member⟩
        have there := (agree.tags u).symm.trans there
        refine ⟨u, tag, there, grouped, ?_⟩
        exact (same ((tags u).symm.trans there) grouped).symm.trans member

namespace Ledger.Firm

/-- What happens outside a closed set leaves its constraints settled. -/
theorem of_agree (firm : l.Firm w r book.constraints store K)
    (compatible : Constraint.Compatible book.constraints store)
    (closed : Constraint.Closed book.constraints store K)
    (agree : l.services.Agree w r K l'.services) : l'.Firm w r book.constraints store K where
  tags u := (agree.tags u).trans (firm.tags u)
  settled d found ready inside := by
    refine (firm.settled d found ready inside).congr ?_ (agree.members d.tag inside)
    exact (compatible.truth_eq found firm.tags closed.free
      (closed.mentions d found ready inside) agree).symm

/-- Nothing that is decided changes a membership in a closed set whose constraints are settled. The
induction is on the depth of the dependencies. -/
theorem decided_agree (firm : s.ledger.Firm w r book.constraints store K)
    (compatible : Constraint.Compatible book.constraints store)
    (closed : Constraint.Closed book.constraints store K) (depth : Nat) (check : Bool)
    (governs : c.Governs book.constraints) :
    s.ledger.services.Agree w r K
      (Pass.decided w book r depth check c s).ledger.services := by
  induction depth using Nat.strongRecOn generalizing check c s with
  | ind depth ih =>
    by_cases inside : K c.tag
    · have settled := firm.settled c governs.registered governs.ready inside
      exact .of_view (Pass.decided_idle book settled depth check).view
    · have kept := Pass.tested_untouched w c r s
      have step := Pass.decision w book r depth check c s
      generalize Pass.decided w book r depth check c s = t at step ⊢
      have tested : s.ledger.services.Agree w r K (Pass.tested w c r s).ledger.services :=
        .of_view kept.view
      cases step with
      | skip => exact .refl _
      | leave =>
        refine tested.trans ?_
        unfold Pass.removed
        split
        · exact .of_moves (Services.Moves.remove _ c.tag) inside
        · exact .refl _
      | stay => exact tested
      | join =>
        refine tested.trans ?_
        unfold Pass.added
        split
        · exact .refl _
        · exact .of_moves (Services.Moves.add _ c.tag) inside
      | @defer deeper _ _ _ depth_eq =>
        have lt : deeper < depth := by omega
        have before := List.foldlRecOn (Pass.firsts book check c) _
          (motive := fun t : PassState => s.ledger.services.Agree w r K t.ledger.services)
          (b := { Pass.tested w c r s with visited := c.tag :: s.visited }) tested
          fun t agree dep mem => agree.trans (ih deeper lt (firm.of_agree compatible closed agree) true
            (Pass.governs_of_mem_firsts compatible.filed mem))
        exact before.trans (ih deeper lt (firm.of_agree compatible closed before) false governs)

end Ledger.Firm

namespace Constraint

/-- A set of tags and that of a constraint, if the constraint mentions tags of the set only. -/
def Grown (store : TagStore) (K : TagId → Prop) (c : Constraint) (u : TagId) : Prop :=
  K u ∨ u = c.tag ∧ ∀ v, c.Mentions store v → K v

/-- What a set of tags grows to with several constraints in turn, newest first. -/
def grownBy (store : TagStore) (K : TagId → Prop) : List Constraint → TagId → Prop
  | [] => K
  | c :: done => Grown store (grownBy store K done) c

theorem closed_free (constraints : Dict TagId Constraint) (store : TagStore) :
    Closed constraints store (Free constraints) where
  free _ h := h
  mentions c found ready inside := by simp [inside c found] at ready

theorem Closed.grown {constraints : Dict TagId Constraint} (closed : Closed constraints store K)
    (registered : constraints.get? c.tag = some c) :
    Closed constraints store (Grown store K c) where
  free u h := .inl (closed.free u h)
  mentions d found ready inside u mentioned := by
    rcases inside with inside | ⟨same, ripe⟩
    · exact .inl (closed.mentions d found ready inside u mentioned)
    · obtain rfl : d = c := Option.some.inj (found.symm.trans (same ▸ registered))
      exact .inl (ripe u mentioned)

theorem Closed.grownBy {constraints : Dict TagId Constraint} {done : List Constraint}
    (closed : Closed constraints store K)
    (registered : ∀ c ∈ done, constraints.get? c.tag = some c) :
    Closed constraints store (grownBy store K done) := by
  induction done with
  | nil => exact closed
  | cons c done ih =>
    exact (ih fun d mem => registered d (List.mem_cons_of_mem _ mem)).grown
      (registered c List.mem_cons_self)

theorem grownBy_of_base {done : List Constraint} {u : TagId} (base : K u) :
    grownBy store K done u := by
  induction done with
  | nil => exact base
  | cons c done ih => exact .inl ih

/-- A set grows by the tags of constraints in order, if each constraint that can be applied mentions
tags of the set and of such constraints before it. -/
theorem Sorted.grownBy {constraints : Dict TagId Constraint} {G : TagId → Prop}
    {done : List Constraint} (sorted : Sorted constraints done)
    (free : ∀ u, Free constraints u → K u)
    (step : ∀ after c before, done = after ++ c :: before → c.isReady = true → G c.tag →
      ∀ u, c.Mentions store u → K u ∨ G u ∧ ∃ d ∈ before, d.tag = u) :
    ∀ c ∈ done, G c.tag → grownBy store K done c.tag := by
  induction done with
  | nil => exact fun _ mem => nomatch mem
  | cons newest done ih =>
    have ih := ih (by cases sorted with | cons before _ _ _ => exact before)
      fun after c before split => step (newest :: after) c before (congrArg (newest :: ·) split)
    intro c mem good
    rcases List.mem_cons.1 mem with rfl | mem
    · cases ready : c.isReady with
      | false =>
        refine grownBy_of_base (free c.tag fun d found => ?_)
        obtain rfl := Option.some.inj ((sorted.registered List.mem_cons_self).symm.trans found)
        exact ready
      | true =>
        refine .inr ⟨rfl, fun u mentioned => ?_⟩
        rcases step [] c done rfl ready good u mentioned with base | ⟨good, d, mem, rfl⟩
        · exact grownBy_of_base base
        · exact ih d mem good
    · exact .inl (ih c mem good)

end Constraint

open Constraint (Grown grownBy)

namespace Ledger.Firm

theorem imp {K' : TagId → Prop} (firm : l.Firm w r book.constraints store K)
    (less : ∀ u, K' u → K u) : l.Firm w r book.constraints store K' where
  tags := firm.tags
  settled c found ready inside := firm.settled c found ready (less c.tag inside)

/-- A constraint that is not in the set yet and mentions tags of the set only is settled when it is
decided. -/
theorem settle (firm : s.ledger.Firm w r book.constraints store K)
    (compatible : Constraint.Compatible book.constraints store)
    (closed : Constraint.Closed book.constraints store K) (running : book.stopping = false)
    (registered : book.constraints.get? c.tag = some c)
    (rested : s.ledger.services.store.isTagged c.tag r.id = false →
      Pass.isRecent w book c r.id s.ledger.history = false)
    (outside : ¬K c.tag) (ripe : ∀ u, c.Mentions store u → K u) (depth : Nat) (check : Bool)
    (fresh : check = true → c.tag ∉ s.visited) :
    (Pass.decided w book r depth check c s).ledger.Firm w r book.constraints store
      (Grown store K c) := by
  have due : c.Due w r book (fun _ _ => True) s.ledger := by
    refine ⟨?_, ?_, rested, ?_, fun _ _ => trivial, fun _ => trivial⟩
    · intro t moves
      exact (compatible.truth_eq registered firm.tags closed.free ripe
        (.of_moves moves outside)).symm
    · rw [firm.tags]
      exact compatible.tags c.tag (by simp [Dict.contains, registered])
    · rintro u d ⟨c', found', dep, -⟩ found ready
      obtain rfl : c = c' := Option.some.inj (registered.symm.trans found')
      obtain rfl : d.tag = u := compatible.filed u d found
      exact firm.settled d found ready (ripe d.tag (.inl dep))
  obtain ⟨turn, settled⟩ := Pass.decided_settles running registered due depth check fresh
  generalize Pass.decided w book r depth check c s = t at turn settled ⊢
  have inner := firm.of_agree compatible closed (.of_moves turn.moves outside)
  refine ⟨inner.tags, ?_⟩
  rintro d found ready (inside | ⟨same, -⟩)
  · exact inner.settled d found ready inside
  · obtain rfl : d = c := Option.some.inj (found.symm.trans (same ▸ registered))
    exact settled

/-- When a constraint is decided, the set grows if it can. -/
theorem own (firm : s.ledger.Firm w r book.constraints store K)
    (compatible : Constraint.Compatible book.constraints store)
    (closed : Constraint.Closed book.constraints store K) (running : book.stopping = false)
    (governs : c.Governs book.constraints)
    (rested : s.ledger.services.store.isTagged c.tag r.id = false →
      Pass.isRecent w book c r.id s.ledger.history = false) (depth : Nat) (check : Bool)
    (fresh : check = true → c.tag ∉ s.visited) :
    (Pass.decided w book r depth check c s).ledger.Firm w r book.constraints store
      (Grown store K c) := by
  by_cases grows : ¬K c.tag ∧ ∀ u, c.Mentions store u → K u
  · exact firm.settle compatible closed running governs.registered rested grows.1 grows.2 depth check
      fresh
  · have stays := firm.of_agree compatible closed
      (firm.decided_agree compatible closed depth check governs)
    refine stays.imp ?_
    rintro u (inside | ⟨rfl, ripe⟩)
    · exact inside
    · by_cases inside : K c.tag
      · exact inside
      · exact absurd ⟨inside, ripe⟩ grows

end Ledger.Firm

/-- What deciding for a subject leaves as it was: the descriptors of all tags, the memberships of other
subjects and those outside a set of tags, and when they began. -/
structure Ledger.Within (S : TagId → Prop) (id : SubjectId) (l l' : Ledger) : Prop where
  tags : ∀ u, l'.services.store.tag? u = l.services.store.tag? u
  members : ∀ u other, ¬(S u ∧ id = other) →
    l'.services.store.isTagged u other = l.services.store.isTagged u other
  history : ∀ u other, ¬(S u ∧ id = other) → l'.history.last? u other = l.history.last? u other

namespace Ledger.Within

variable {S S' : TagId → Prop} {id : SubjectId} {l'' : Ledger}

theorem trans (first : l.Within S id l') (second : l'.Within S id l'') : l.Within S id l'' where
  tags u := (second.tags u).trans (first.tags u)
  members u other apart := (second.members u other apart).trans (first.members u other apart)
  history u other apart := (second.history u other apart).trans (first.history u other apart)

theorem mono (h : l.Within S id l') (more : ∀ u, S u → S' u) : l.Within S' id l' where
  tags := h.tags
  members u other apart := h.members u other fun inside => apart ⟨more u inside.1, inside.2⟩
  history u other apart := h.history u other fun inside => apart ⟨more u inside.1, inside.2⟩

theorem of_apart {tag : TagId} (apart : l.Apart tag id l') (inside : S tag) : l.Within S id l' where
  tags := apart.tags
  members u other outside := apart.members u other fun same => outside ⟨same.1 ▸ inside, same.2⟩
  history u other outside := apart.history u other fun same => outside ⟨same.1 ▸ inside, same.2⟩

end Ledger.Within

/-- Deciding a constraint changes memberships in tags that it depends on, and in its own. The induction
is on the depth of the dependencies. -/
theorem Pass.decided_within (filed : Constraint.Filed book.constraints)
    (registered : book.constraints.get? c.tag = some c) (depth : Nat) (check : Bool) :
    s.ledger.Within (Relation.ReflTransGen (Constraint.Needs book.constraints) c.tag) r.id
      (decided w book r depth check c s).ledger := by
  induction depth using Nat.strongRecOn generalizing check c s with
  | ind depth ih =>
    have kept := Ledger.Within.of_apart (tested_apart w c r s)
      (S := Relation.ReflTransGen (Constraint.Needs book.constraints) c.tag) .refl
    have step := decision w book r depth check c s
    generalize decided w book r depth check c s = t at step ⊢
    cases step with
    | skip => exact .of_apart (.refl _) .refl
    | leave => exact kept.trans (.of_apart (removed_apart book c r.id _) .refl)
    | stay => exact kept
    | join => exact kept.trans (.of_apart (added_apart w book c r.id _) .refl)
    | @defer deeper _ _ _ depth_eq =>
      have lt : deeper < depth := by omega
      refine Ledger.Within.trans ?_ (ih deeper lt registered false)
      refine List.foldlRecOn (firsts book check c) _ (motive := fun t : PassState => s.ledger.Within
        (Relation.ReflTransGen (Constraint.Needs book.constraints) c.tag) r.id t.ledger) kept ?_
      intro t before dep mem
      obtain ⟨u, edge, found, -⟩ := needs_of_mem_firsts registered mem
      obtain rfl : dep.tag = u := filed u dep found
      exact before.trans ((ih deeper lt found true).mono fun v below => .head edge below)

/-- Where a sweep stands as far as one subject is concerned: a set of tags whose constraints are
settled, and what is known of memberships and of when they began. -/
structure Ledger.Stage (w : World) (r : SubjectRecord) (constraints : Dict TagId Constraint)
    (store : TagStore) (K : TagId → Prop) (P : TagId → Bool → Option Nat → Prop) (l : Ledger) :
    Prop where
  firm : l.Firm w r constraints store K
  truthful : l.services.Truthful w
  notes : ∀ u, P u (l.services.store.isTagged u r.id) (l.history.last? u r.id)

/-- What is known of memberships while a sweep goes on, given the constraints that it has met. When the
turn of a constraint comes, a subject that is not in its tag was not added to it before. -/
structure Ledger.Notes (w : World) (r : SubjectRecord) (book : Rulebook) (check : Bool)
    (P : List Constraint → TagId → Bool → Option Nat → Prop) : Prop where
  rested : ∀ {c done}, Constraint.Sorted book.constraints (c :: done) → ∀ h, P done c.tag false h →
    h = none
  skip : ∀ {c done u m h}, P done u m h → P (c :: done) u m h
  own : ∀ {c done} (s : PassState) depth, Constraint.Sorted book.constraints (c :: done) →
    (s.ledger.services.store.tag? c.tag).isSome = true →
    (∀ u, P done u (s.ledger.services.store.isTagged u r.id) (s.ledger.history.last? u r.id)) →
    ∀ u, P (c :: done) u
      ((Pass.decided w book r depth check c s).ledger.services.store.isTagged u r.id)
      ((Pass.decided w book r depth check c s).ledger.history.last? u r.id)

/-- Deciding a constraint on its own leaves no note of an addition while the subject is absent. -/
theorem Pass.decided_last?_eq_none (there : (s.ledger.services.store.tag? c.tag).isSome = true)
    (rested : s.ledger.history.last? c.tag r.id = none) (depth : Nat)
    (absent : (decided w book r depth false c s).ledger.services.store.isTagged c.tag r.id = false) :
    (decided w book r depth false c s).ledger.history.last? c.tag r.id = none := by
  have kept := tested_untouched w c r s
  have rested : (tested w c r s).ledger.history.last? c.tag r.id = none := kept.history ▸ rested
  have step := decision w book r depth false c s
  generalize decided w book r depth false c s = t at step absent ⊢
  cases step with
  | skip visited => cases visited.1
  | leave =>
    unfold removed
    split <;> exact rested
  | stay => exact rested
  | join =>
    unfold added at absent ⊢
    split
    · exact rested
    · next joins =>
      have there := (TagStore.tag?_congr kept.rolls).symm ▸ there
      rw [if_neg joins] at absent
      cases (TagStore.isTagged_add_self w.now there).symm.trans absent
  | defer _ _ _ _ some => exact absurd rfl some

namespace Ledger.Notes

/-- In the first sweep: who is absent has not been added, and no one has been added to a tag whose
turn is still to come. -/
theorem first (w : World) (r : SubjectRecord) (book : Rulebook) :
    Notes w r book false fun done u m h =>
      ((∀ c ∈ done, c.tag ≠ u) → h = none) ∧ (m = false → h = none) where
  rested _ _ note := note.2 rfl
  skip note := ⟨fun new => note.1 fun d mem => new d (List.mem_cons_of_mem _ mem), note.2⟩
  own {c done} s depth sorted there notes u := by
    have apart := Pass.decided_apart w book r depth c s
    by_cases same : c.tag = u
    · subst same
      refine ⟨fun new => absurd rfl (new c List.mem_cons_self), fun absent => ?_⟩
      refine Pass.decided_last?_eq_none there ((notes c.tag).1 ?_) depth absent
      cases sorted with | cons _ _ once _ => exact once
    · rw [apart.members u r.id fun inside => same inside.1,
        apart.history u r.id fun inside => same inside.1]
      exact ⟨fun new => (notes u).1 fun d mem => new d (List.mem_cons_of_mem _ mem), (notes u).2⟩

/-- In a later sweep: who is absent from a tag whose turn is still to come has not been added. What is
decided first belongs to tags whose turn is over. -/
theorem later (w : World) (r : SubjectRecord) (filed : Constraint.Filed book.constraints) :
    Notes w r book true fun done u m h => (∀ c ∈ done, c.tag ≠ u) → m = false → h = none where
  rested {c done} sorted h note := by
    cases sorted with | cons _ _ once _ => exact note once rfl
  skip note new := note fun d mem => new d (List.mem_cons_of_mem _ mem)
  own {c done} s depth sorted _ notes u new := by
    have within := Pass.decided_within (w := w) (r := r) (s := s) filed
      (sorted.registered List.mem_cons_self) depth true
    have outside : ¬(Relation.ReflTransGen (Constraint.Needs book.constraints) c.tag u ∧
        r.id = r.id) := by
      rintro ⟨below, -⟩
      rcases Relation.reflTransGen_iff_eq_or_transGen.1 below with rfl | reaches
      · exact new c List.mem_cons_self rfl
      · obtain ⟨_, -, ⟨_, -, -, constrained⟩⟩ := Relation.TransGen.tail'_iff.1 reaches
        obtain ⟨d, found⟩ := Option.isSome_iff_exists.1 constrained
        exact new d (List.mem_cons_of_mem _ (sorted.mem_of_reaches reaches found)) (filed u d found)
    rw [within.members u r.id outside, within.history u r.id outside]
    exact notes u fun d mem => new d (List.mem_cons_of_mem _ mem)

end Ledger.Notes

namespace Ledger.Stage

variable {P P' : TagId → Bool → Option Nat → Prop} {S : TagId → Prop} {ids : List SubjectId}

/-- What happens to other subjects makes no difference. -/
theorem other (stage : l.Stage w r book.constraints store K P)
    (compatible : Constraint.Compatible book.constraints store)
    (closed : Constraint.Closed book.constraints store K) (known : w.Knows r) {id : SubjectId}
    (other : id ≠ r.id) (within : l.Within S id l') (truthful : l'.services.Truthful w) :
    l'.Stage w r book.constraints store K P where
  firm := by
    refine stage.firm.of_agree compatible closed
      (.of_truthful known stage.truthful truthful within.tags fun u _ => ?_)
    exact within.members u r.id fun inside => other inside.2
  truthful := truthful
  notes u := by
    rw [within.members u r.id fun inside => other inside.2,
      within.history u r.id fun inside => other inside.2]
    exact stage.notes u

/-- Other subjects are decided. -/
theorem foldl_other (stage : s.ledger.Stage w r book.constraints store K P)
    (compatible : Constraint.Compatible book.constraints store)
    (closed : Constraint.Closed book.constraints store K) (known : w.Knows r) (filed : w.Filed)
    (registered : book.constraints.get? c.tag = some c) (check : Bool) (others : r.id ∉ ids) :
    (ids.foldl (Pass.decidedFor w book c check) s).ledger.Stage w r book.constraints store K P := by
  induction ids generalizing s with
  | nil => exact stage
  | cons id ids ih =>
    simp only [List.mem_cons, not_or] at others
    refine ih ?_ others.2
    have truthful := Pass.decidedFor_truthful filed book c check id stage.truthful
    unfold Pass.decidedFor at truthful ⊢
    cases found : w.subjects.get? id with
    | none => exact stage
    | some subject =>
      obtain rfl : subject.record.id = id := filed id subject found
      simp only [found] at truthful ⊢
      split at truthful
      · next idle => rwa [if_pos idle]
      · next busy =>
        rw [if_neg busy]
        exact stage.other compatible closed known (Ne.symm others.1)
          (Pass.decided_within (s := { s with visited := [] }) compatible.filed registered
            (Pass.fullDepth book) check) truthful

/-- The subject itself is decided. -/
theorem own (stage : s.ledger.Stage w r book.constraints store K P)
    (compatible : Constraint.Compatible book.constraints store)
    (closed : Constraint.Closed book.constraints store K) (running : book.stopping = false)
    (governs : c.Governs book.constraints) (found : w.subjects.get? r.id = some { record := r })
    (rested : ∀ h, P c.tag false h → h = none) (check : Bool)
    (notes : ∀ depth u, P' u
      ((Pass.decided w book r depth check c
        { s with visited := [] }).ledger.services.store.isTagged u r.id)
      ((Pass.decided w book r depth check c { s with visited := [] }).ledger.history.last? u r.id)) :
    (Pass.decidedFor w book c check s r.id).ledger.Stage w r book.constraints store
      (Grown store K c) P' := by
  have same : Pass.decidedFor w book c check s r.id =
      Pass.decided w book r (Pass.fullDepth book) check c { s with visited := [] } := by
    simp only [Pass.decidedFor, found, running, Bool.or_self, Bool.false_eq_true, if_false]
  rw [same]
  refine ⟨?_, ?_, notes _⟩
  · refine Firm.own (s := { s with visited := [] }) stage.firm compatible closed running governs ?_ _
      check fun _ => List.not_mem_nil
    intro absent
    have noted := stage.notes c.tag
    rw [absent] at noted
    simp only [Pass.isRecent, rested _ noted]
  · exact Pass.decided_truthful (s := { s with visited := [] }) book ⟨_, found, rfl⟩ _ check c
      stage.truthful

/-- The next constraint in order. -/
theorem next {P : List Constraint → TagId → Bool → Option Nat → Prop} {done : List Constraint}
    {check : Bool} (stage : l.Stage w r book.constraints store (grownBy store K done) (P done))
    (notes : Notes w r book check P) (compatible : Constraint.Compatible book.constraints store)
    (closed : Constraint.Closed book.constraints store K)
    (sorted : Constraint.Sorted book.constraints (c :: done)) (running : book.stopping = false)
    (filed : w.Filed) (distinct : ids.Nodup) (mem : r.id ∈ ids)
    (found : w.subjects.get? r.id = some { record := r }) :
    (Pass.swept w book check ids l c).Stage w r book.constraints store
      (grownBy store K (c :: done)) (P (c :: done)) := by
  have registered := sorted.registered List.mem_cons_self
  have closed := closed.grownBy fun d mem => sorted.registered (List.mem_cons_of_mem c mem)
  unfold Pass.swept
  cases ready : c.isReady with
  | false =>
    refine ⟨stage.firm.imp ?_, stage.truthful, fun u => notes.skip (stage.notes u)⟩
    rintro u (inside | ⟨rfl, -⟩)
    · exact inside
    · refine closed.free c.tag fun d found => ?_
      obtain rfl := Option.some.inj (registered.symm.trans found)
      exact ready
  | true =>
    have known : w.Knows r := ⟨_, found, rfl⟩
    obtain ⟨before, after, rfl⟩ := List.append_of_mem mem
    obtain ⟨-, ⟨unique, -⟩, apart⟩ := by simpa only [List.nodup_append, List.nodup_cons] using distinct
    have absent : r.id ∉ before := fun mem => apart _ mem _ List.mem_cons_self rfl
    rw [if_pos rfl, List.foldl_append, List.foldl_cons]
    have first := stage.foldl_other (s := { ledger := l }) compatible closed known filed registered
      check absent
    generalize before.foldl _ _ = t at first ⊢
    have present : (t.ledger.services.store.tag? c.tag).isSome = true := by
      rw [first.firm.tags]
      exact compatible.tags c.tag (by simp [Dict.contains, registered])
    have second := first.own compatible closed running ⟨registered, ready⟩ found
      (notes.rested sorted) check fun depth =>
        notes.own { t with visited := [] } depth sorted present first.notes
    exact second.foldl_other compatible (closed.grown registered) known filed registered check unique

/-- A sweep in order. -/
theorem sweep {P : List Constraint → TagId → Bool → Option Nat → Prop} {done : List Constraint}
    {check : Bool} (start : l.Stage w r book.constraints store K (P [])) (notes : Notes w r book check P)
    (compatible : Constraint.Compatible book.constraints store)
    (closed : Constraint.Closed book.constraints store K)
    (sorted : Constraint.Sorted book.constraints done) (running : book.stopping = false)
    (filed : w.Filed) (distinct : ids.Nodup) (mem : r.id ∈ ids)
    (found : w.subjects.get? r.id = some { record := r }) :
    (done.reverse.foldl (Pass.swept w book check ids) l).Stage w r book.constraints store
      (grownBy store K done) (P done) := by
  induction done with
  | nil => exact start
  | cons c done ih =>
    have before : Constraint.Sorted book.constraints done := by
      cases sorted with | cons before _ _ _ => exact before
    rw [List.reverse_cons, List.foldl_append]
    exact (ih before).next notes compatible closed sorted running filed distinct mem found

end Ledger.Stage

namespace Ledger.Firm

variable {ids : List SubjectId} {done : List Constraint}

/-- Two sweeps in order, the second one with a look at dependencies, settle what the first one can and
then what the second one can. -/
theorem sweeps (compatible : Constraint.Compatible book.constraints store)
    (sorted : Constraint.Sorted book.constraints done) (running : book.stopping = false)
    (filed : w.Filed) (distinct : ids.Nodup) (mem : r.id ∈ ids)
    (found : w.subjects.get? r.id = some { record := r }) (truthful : l.services.Truthful w)
    (tags : ∀ u, l.services.store.tag? u = store.tag? u)
    (fresh : ∀ u, l.history.last? u r.id = none) :
    (done.reverse.foldl (Pass.swept w book true ids)
      (done.reverse.foldl (Pass.swept w book false ids) l)).Firm w r book.constraints store
      (grownBy store (grownBy store (Constraint.Free book.constraints) done) done) := by
  have closed := Constraint.closed_free book.constraints store
  have start : l.Firm w r book.constraints store (Constraint.Free book.constraints) := by
    refine ⟨tags, fun c found ready free => ?_⟩
    simp [free c found] at ready
  have once := Stage.sweep ⟨start, truthful, fun u => ⟨fun _ => fresh u, fun _ => fresh u⟩⟩
    (.first w r book) compatible closed sorted running filed distinct mem found
  refine (Stage.sweep ⟨once.firm, once.truthful, fun u _ => (once.notes u).2⟩
    (.later w r compatible.filed) compatible ?_ sorted running filed distinct mem found).firm
  exact closed.grownBy fun c mem => sorted.registered mem

/-- A constraint is decided for some subject. -/
theorem decidedFor_agree (firm : s.ledger.Firm w r book.constraints store K)
    (truthful : s.ledger.services.Truthful w)
    (compatible : Constraint.Compatible book.constraints store)
    (closed : Constraint.Closed book.constraints store K) (known : w.Knows r) (filed : w.Filed)
    (governs : c.Governs book.constraints) (check : Bool) (id : SubjectId) :
    s.ledger.services.Agree w r K (Pass.decidedFor w book c check s id).ledger.services := by
  have truthful' := Pass.decidedFor_truthful filed book c check id truthful
  unfold Pass.decidedFor at truthful' ⊢
  cases found : w.subjects.get? id with
  | none => exact .refl _
  | some subject =>
    simp only [found] at truthful' ⊢
    split at truthful'
    · next idle => rw [if_pos idle]; exact .refl _
    · next busy =>
      rw [if_neg busy]
      by_cases same : subject.record.id = r.id
      · obtain ⟨subject', found', rfl⟩ := known
        have self := filed id subject found
        obtain rfl : subject = subject' :=
          Option.some.inj (found.symm.trans (self ▸ same ▸ found'))
        exact firm.decided_agree (s := { s with visited := [] }) compatible closed _ check governs
      · have within := Pass.decided_within (w := w) (r := subject.record)
          (s := { s with visited := [] }) compatible.filed governs.registered (Pass.fullDepth book) check
        exact .of_truthful known truthful truthful' within.tags fun u _ =>
          within.members u r.id fun inside => same inside.2

/-- Whatever is swept, nothing changes in a closed set whose constraints are settled. -/
theorem sweep_agree (firm : l.Firm w r book.constraints store K) (truthful : l.services.Truthful w)
    (compatible : Constraint.Compatible book.constraints store)
    (closed : Constraint.Closed book.constraints store K) (known : w.Knows r) (filed : w.Filed)
    {cs : List Constraint} (registered : ∀ c ∈ cs, book.constraints.get? c.tag = some c)
    (check : Bool) :
    l.services.Agree w r K (cs.foldl (Pass.swept w book check ids) l).services := by
  have one (c : Constraint) (governs : c.Governs book.constraints) (l : Ledger)
      (firm : l.Firm w r book.constraints store K) (truthful : l.services.Truthful w) :
      l.services.Agree w r K
        (ids.foldl (Pass.decidedFor w book c check) { ledger := l }).ledger.services := by
    refine (List.foldlRecOn ids _ (motive := fun t : PassState => t.ledger.services.Truthful w ∧
      l.services.Agree w r K t.ledger.services) ⟨truthful, .refl _⟩ ?_).2
    rintro t ⟨truthful, agree⟩ id -
    have firm := firm.of_agree compatible closed agree
    exact ⟨Pass.decidedFor_truthful filed book c check id truthful,
      agree.trans (firm.decidedFor_agree truthful compatible closed known filed governs check id)⟩
  refine (List.foldlRecOn cs _ (motive := fun l' : Ledger => l'.services.Truthful w ∧
    l.services.Agree w r K l'.services) ⟨truthful, .refl _⟩ ?_).2
  rintro l' ⟨truthful, agree⟩ c mem
  refine ⟨Pass.swept_truthful filed book check ids c truthful, agree.trans ?_⟩
  unfold Pass.swept
  split
  · next ready =>
    exact one c ⟨registered c mem, ready⟩ l' (firm.of_agree compatible closed agree) truthful
  · exact .refl _

end Ledger.Firm

end

end TagRules
