import TagRules.Proofs.Registry.Turn

/-!
# Sweeps over several subjects

A sweep decides constraints in turn, each for all subjects. Deciding a constraint for one subject
leaves the other subjects alone, and as expressions ask about tags by name only, it makes no
difference to them. So a sweep in order without a look at dependencies brings every subject to
where its constraints agree with each other (`Ledger.Stands.sweep`), and another sweep leaves it there
(`Ledger.Rests.sweep`).
-/

namespace TagRules

/-- Rules without cycles for existing tags, compiled for the tags as they are, whose expressions ask
about tags by name only. -/
structure Constraint.Coherent (constraints : Dict TagId Constraint) (store : TagStore) : Prop where
  filed : Filed constraints
  acyclic : Acyclic constraints
  tags : ∀ tag, constraints.contains tag = true → (store.tag? tag).isSome = true
  upToDate : ∀ tag c, constraints.get? tag = some c → c.UpToDate constraints store
  byName : ∀ tag c e, constraints.get? tag = some c → c.expr? = some e → e.ByName

/-- Whether a subject is a member after a constraint was decided that holds or not. -/
def Options.outcome (o : Options) (holds member : Bool) : Bool :=
  if holds then member || o.autoAdd else member && !o.autoRemove

namespace Pass

variable {w : World} {book : Rulebook} {c : Constraint} {r : SubjectRecord} {s : PassState}

theorem tested_truthful (known : w.Knows r) (truthful : s.ledger.services.Truthful w) :
    (tested w c r s).ledger.services.Truthful w := by
  unfold tested test
  cases c.expr? with
  | none => exact truthful
  | some e =>
    exact ((e.holds_reads ⟨w, c.tag, r, s.ledger.services.store.tagsOf r.id⟩).keeps
      { services := s.ledger.services }).truthful known truthful

theorem removed_truthful {id : SubjectId} (truthful : s.ledger.services.Truthful w) :
    (removed book c id s).ledger.services.Truthful w := by
  unfold removed
  split
  · exact truthful.congr rfl rfl rfl
  · exact truthful

theorem added_truthful {id : SubjectId} (truthful : s.ledger.services.Truthful w) :
    (added w book c id s).ledger.services.Truthful w := by
  unfold added
  split
  · exact truthful
  · exact truthful.congr rfl rfl rfl

/-- Caches stay truthful. The induction is on the depth of the dependencies. -/
theorem decided_truthful (book : Rulebook) (known : w.Knows r) (depth : Nat) (check : Bool)
    (c : Constraint) (truthful : s.ledger.services.Truthful w) :
    (decided w book r depth check c s).ledger.services.Truthful w := by
  induction depth using Nat.strongRecOn generalizing check c s with
  | ind depth ih =>
    have tested := tested_truthful (c := c) known truthful
    have step := decision w book r depth check c s
    generalize decided w book r depth check c s = t at step ⊢
    cases step with
    | skip => exact truthful
    | leave => exact removed_truthful tested
    | stay => exact tested
    | join => exact added_truthful tested
    | @defer deeper _ _ _ depth_eq =>
      have lt : deeper < depth := by omega
      refine ih deeper lt false c ?_
      exact List.foldlRecOn _ _ (motive := fun t : PassState => t.ledger.services.Truthful w) tested
        fun _ truthful dep _ => ih deeper lt true dep truthful

end Pass

/-- Every subject is filed under its own identity. -/
def World.Filed (w : World) : Prop :=
  ∀ id subject, w.subjects.get? id = some subject → subject.record.id = id

theorem World.Filed.of_entries {w : World}
    (each : ∀ entry ∈ w.subjects.entries, entry.2.record.id = entry.1) : w.Filed :=
  fun _ _ found => each _ (Dict.mem_entries.2 found)

theorem Pass.decidedFor_truthful {w : World} {s : PassState} (filed : w.Filed) (book : Rulebook)
    (c : Constraint) (check : Bool) (id : SubjectId) (truthful : s.ledger.services.Truthful w) :
    (decidedFor w book c check s id).ledger.services.Truthful w := by
  unfold decidedFor
  cases found : w.subjects.get? id with
  | none => exact truthful
  | some subject =>
    have self := filed id subject found
    simp only []
    split
    · exact truthful
    · exact decided_truthful (s := { s with visited := [] }) book ⟨subject, self.symm ▸ found, rfl⟩
        _ _ c truthful

/-- What deciding a constraint for a subject leaves as it was: the descriptors of all tags, all other
memberships, and when they began. -/
structure Ledger.Apart (tag : TagId) (id : SubjectId) (l l' : Ledger) : Prop where
  tags : ∀ u, l'.services.store.tag? u = l.services.store.tag? u
  members : ∀ u other, ¬(tag = u ∧ id = other) →
    l'.services.store.isTagged u other = l.services.store.isTagged u other
  history : ∀ u other, ¬(tag = u ∧ id = other) → l'.history.last? u other = l.history.last? u other

namespace Ledger.Apart

variable {tag : TagId} {id : SubjectId} {l l' l'' : Ledger}

theorem refl (l : Ledger) : l.Apart tag id l :=
  ⟨fun _ => rfl, fun _ _ _ => rfl, fun _ _ _ => rfl⟩

theorem trans (first : l.Apart tag id l') (second : l'.Apart tag id l'') : l.Apart tag id l'' where
  tags u := (second.tags u).trans (first.tags u)
  members u other apart := (second.members u other apart).trans (first.members u other apart)
  history u other apart := (second.history u other apart).trans (first.history u other apart)

end Ledger.Apart

namespace Pass

variable {w : World} {book : Rulebook} {c : Constraint} {r : SubjectRecord} {s : PassState}

theorem tested_apart (w : World) (c : Constraint) (r : SubjectRecord) (s : PassState) :
    s.ledger.Apart c.tag r.id (tested w c r s).ledger where
  tags _ := TagStore.tag?_congr (tested_untouched w c r s).rolls
  members _ _ _ := (tested_untouched w c r s).isTagged _ _
  history _ _ _ := by rw [(tested_untouched w c r s).history]

theorem removed_apart (book : Rulebook) (c : Constraint) (id : SubjectId) (s : PassState) :
    s.ledger.Apart c.tag id (removed book c id s).ledger := by
  unfold removed
  split
  · exact ⟨fun _ => TagStore.tag?_remove .., fun _ _ apart => TagStore.isTagged_remove_of_not _ apart,
      fun _ _ _ => rfl⟩
  · exact .refl _

theorem added_apart (w : World) (book : Rulebook) (c : Constraint) (id : SubjectId) (s : PassState) :
    s.ledger.Apart c.tag id (added w book c id s).ledger := by
  unfold added
  split
  · exact .refl _
  · exact ⟨fun _ => TagStore.tag?_add .., fun _ _ apart => TagStore.isTagged_add_of_not _ _ apart,
      fun _ _ apart => AddHistory.last?_note _ _ _ _ apart⟩

/-- Deciding a constraint for a subject on its own changes at most the membership of that subject in
that tag. -/
theorem decided_apart (w : World) (book : Rulebook) (r : SubjectRecord) (depth : Nat)
    (c : Constraint) (s : PassState) :
    s.ledger.Apart c.tag r.id (decided w book r depth false c s).ledger := by
  have kept := tested_apart w c r s
  have step := decision w book r depth false c s
  generalize decided w book r depth false c s = t at step ⊢
  cases step with
  | skip visited => cases visited.1
  | leave => exact kept.trans (removed_apart book c r.id _)
  | stay => exact kept
  | join => exact kept.trans (added_apart w book c r.id _)
  | defer _ _ _ _ some => exact absurd rfl some

/-- Deciding a constraint for a subject on its own, when it was not added to the tag before, gives
the membership that its truth calls for. -/
theorem decided_outcome (running : book.stopping = false)
    (there : (s.ledger.services.store.tag? c.tag).isSome = true)
    (rested : s.ledger.history.last? c.tag r.id = none) (depth : Nat) :
    (decided w book r depth false c s).ledger.services.store.isTagged c.tag r.id =
      c.options.outcome (c.truth w r s.ledger.services)
        (s.ledger.services.store.isTagged c.tag r.id) := by
  have kept := tested_untouched w c r s
  have step := decision w book r depth false c s
  generalize decided w book r depth false c s = t at step ⊢
  cases step with
  | skip visited => cases visited.1
  | leave truth =>
    unfold removed Options.outcome
    simp only [truth, kept.isTagged, running, Bool.not_false, Bool.and_true, Bool.false_eq_true,
      if_false]
    split
    · next h =>
      simp only [Bool.and_eq_true] at h
      refine (TagStore.isTagged_remove_self _ _ _).trans ?_
      simp [h.1]
    · next h =>
      rw [kept.isTagged]
      cases member : s.ledger.services.store.isTagged c.tag r.id with
      | false => rfl
      | true => simpa [member] using h
  | stay truth done =>
    unfold Options.outcome
    rw [kept.isTagged, truth, if_pos rfl]
    cases allowed : c.options.autoAdd with
    | false => rw [Bool.or_false]
    | true => rw [done allowed, Bool.or_true]
  | join truth allowed absent =>
    unfold added Options.outcome
    have fresh : isRecent w book c r.id (tested w c r s).ledger.history = false := by
      unfold isRecent
      rw [kept.history, rested]
    rw [if_neg (by simp [running, fresh]), truth, if_pos rfl, allowed, Bool.or_true]
    exact TagStore.isTagged_add_self _ ((TagStore.tag?_congr kept.rolls).symm ▸ there)
  | defer _ _ _ _ some => exact absurd rfl some

/-- The ledger after a constraint was applied to several subjects. -/
def swept (w : World) (book : Rulebook) (check : Bool) (ids : List SubjectId) (l : Ledger)
    (c : Constraint) : Ledger :=
  if c.isReady then (ids.foldl (decidedFor w book c check) { ledger := l }).ledger else l

end Pass

theorem Pass.swept_truthful {w : World} {l : Ledger} (filed : w.Filed) (book : Rulebook)
    (check : Bool) (ids : List SubjectId) (c : Constraint) (truthful : l.services.Truthful w) :
    (swept w book check ids l c).services.Truthful w := by
  unfold swept
  split
  · exact List.foldlRecOn ids _ (motive := fun s : PassState => s.ledger.services.Truthful w) truthful
      fun _ truthful id _ => decidedFor_truthful filed book c check id truthful
  · exact truthful

/-- Caches stay truthful in a sweep. -/
theorem Pass.foldl_swept_truthful {w : World} {l : Ledger} (filed : w.Filed) (book : Rulebook)
    (check : Bool) (ids : List SubjectId) (cs : List Constraint) (truthful : l.services.Truthful w) :
    (cs.foldl (swept w book check ids) l).services.Truthful w :=
  List.foldlRecOn cs _ (motive := fun l : Ledger => l.services.Truthful w) truthful
    fun _ truthful c _ => swept_truthful filed book check ids c truthful

/-- A sweep changes the ledger only. -/
theorem Registry.applyEach_eq {r : Registry} (running : r.stopping = false)
    (opened : r.gate.isOpen = true) (w : World) (check : Bool) (ids : List SubjectId)
    (cs : List Constraint) :
    (r.applyEach w check ids cs).2 =
      { r with ledger := cs.foldl (Pass.swept w r.rulebook check ids) r.ledger } := by
  induction cs generalizing r with
  | nil => rfl
  | cons c cs ih =>
    have first : (r.apply w c check ids).2 =
        { r with ledger := Pass.swept w r.rulebook check ids r.ledger c } := by
      unfold apply Pass.swept
      cases ready : c.isReady with
      | false => rfl
      | true =>
        simp only [running, opened, runPass, Pass.decideEach_run, Bool.not_true, Bool.or_self,
          Bool.false_eq_true, if_false, if_true]
    change ((r.apply w c check ids).2.applyEach w check ids cs).2 = _
    rw [first]
    exact ih (r := { r with ledger := Pass.swept w r.rulebook check ids r.ledger c }) running opened

/-- Applying all constraints is a sweep with a look at dependencies; the first assignment makes another
one before, without a look at them. -/
theorem Registry.applyToMany_eq {r : Registry} (running : r.stopping = false)
    (opened : r.gate.isOpen = true) (w : World) (initial : Bool) (ids : List SubjectId) :
    (r.applyToMany w initial ids).2 = { r with
      initialDone := r.initialDone || initial
      ledger := (if initial then [false, true] else [true]).foldl (fun l check =>
        r.snapshot.foldl (Pass.swept w r.rulebook check ids) l) r.ledger } := by
  unfold applyToMany
  cases initial with
  | false =>
    simp only [Bool.not_false, Bool.false_eq_true, if_false, Bool.or_false]
    exact applyEach_eq running opened ..
  | true =>
    simp only [Bool.not_true, if_true, Bool.or_true]
    rw [applyEach_eq running opened, applyEach_eq (r := { r with initialDone := true, ledger := _ })
      running opened]
    rfl

namespace Ledger

variable {w : World} {book : Rulebook} {store : TagStore} {c : Constraint} {r : SubjectRecord}
  {l l' : Ledger} {done : List Constraint} {ids : List SubjectId}

/-- A sweep that has met some constraints, as far as one subject is concerned: each of these gave it
the membership that it calls for now, and in all other tags nothing has happened. -/
structure Stands (w : World) (r : SubjectRecord) (store : TagStore) (done : List Constraint)
    (l : Ledger) : Prop where
  tags : ∀ u, l.services.store.tag? u = store.tag? u
  truthful : l.services.Truthful w
  members : ∀ u, (∀ c ∈ done, c.isReady = true → c.tag ≠ u) →
    l.services.store.isTagged u r.id = store.isTagged u r.id
  history : ∀ u, (∀ c ∈ done, c.isReady = true → c.tag ≠ u) → l.history.last? u r.id = none
  outcome : ∀ c ∈ done, c.isReady = true → l.services.store.isTagged c.tag r.id =
    c.options.outcome (c.truth w r l.services) (store.isTagged c.tag r.id)

/-- The truth of a constraint for a subject is the same if its memberships are, apart from those that
no constraint is responsible for or that this one does not test. -/
theorem truth_eq (coherent : Constraint.Coherent book.constraints store)
    (found : book.constraints.get? c.tag = some c) (known : w.Knows r)
    (tags : ∀ u, l.services.store.tag? u = store.tag? u) (truthful : l.services.Truthful w)
    (tags' : ∀ u, l'.services.store.tag? u = store.tag? u) (truthful' : l'.services.Truthful w)
    (members : ∀ u, u ∈ c.dependsOn ∨ book.constraints.contains u = false →
      l'.services.store.isTagged u r.id = l.services.store.isTagged u r.id) :
    c.truth w r l'.services = c.truth w r l.services := by
  have drift : l.services.Drift w r book.constraints l'.services := by
    refine ⟨?_, fun u => (tags' u).trans (tags u).symm, fun u free => members u (.inr free)⟩
    rw [truthful.view_eq known, truthful'.view_eq known]
    exact ⟨rfl, rfl, rfl⟩
  exact ((coherent.upToDate c.tag c found).truth_eq (fun e => coherent.byName c.tag c e found) tags
    drift fun u dep => members u (.inl dep)).symm

/-- Of constraints in order, none tests the tag of the last one. -/
theorem truth_eq_of_sorted (coherent : Constraint.Coherent book.constraints store)
    (sorted : Constraint.Sorted book.constraints (c :: done)) {d : Constraint} (mem : d ∈ c :: done)
    (known : w.Knows r) (tags : ∀ u, l.services.store.tag? u = store.tag? u)
    (truthful : l.services.Truthful w) (tags' : ∀ u, l'.services.store.tag? u = store.tag? u)
    (truthful' : l'.services.Truthful w)
    (members : ∀ u, c.tag ≠ u →
      l'.services.store.isTagged u r.id = l.services.store.isTagged u r.id) :
    d.truth w r l'.services = d.truth w r l.services := by
  refine truth_eq coherent (sorted.registered mem) known tags truthful tags' truthful'
    fun u dep => members u ?_
  rintro rfl
  rcases dep with dep | free
  · rcases List.mem_cons.1 mem with rfl | mem
    · exact sorted.self_not_mem_dependsOn dep
    · exact sorted.not_mem_dependsOn mem dep
  · simp [Dict.contains, sorted.registered List.mem_cons_self] at free

namespace Stands

/-- What happens to other subjects makes no difference. -/
theorem of_apart (stands : l.Stands w r store done)
    (coherent : Constraint.Coherent book.constraints store)
    (registered : ∀ c ∈ done, book.constraints.get? c.tag = some c) (known : w.Knows r)
    {tag : TagId} {id : SubjectId} (other : id ≠ r.id) (apart : l.Apart tag id l')
    (truthful : l'.services.Truthful w) : l'.Stands w r store done where
  tags u := (apart.tags u).trans (stands.tags u)
  truthful := truthful
  members u free := (apart.members u r.id fun same => other same.2).trans (stands.members u free)
  history u free := (apart.history u r.id fun same => other same.2).trans (stands.history u free)
  outcome c mem ready := by
    have members (u : TagId) := apart.members u r.id fun same => other same.2
    have truth := truth_eq coherent (registered c mem) known stands.tags stands.truthful
      (fun u => (apart.tags u).trans (stands.tags u)) truthful fun u _ => members u
    rw [members, truth]
    exact stands.outcome c mem ready

/-- Other subjects are decided. -/
theorem foldl_other (stands : l.Stands w r store done)
    (coherent : Constraint.Coherent book.constraints store)
    (registered : ∀ c ∈ done, book.constraints.get? c.tag = some c) (known : w.Knows r)
    (filed : w.Filed) (c : Constraint) (others : r.id ∉ ids) {s : PassState} (at' : s.ledger = l) :
    (ids.foldl (Pass.decidedFor w book c false) s).ledger.Stands w r store done := by
  subst at'
  induction ids generalizing s with
  | nil => exact stands
  | cons id ids ih =>
    simp only [List.mem_cons, not_or] at others
    refine ih others.2 ?_
    unfold Pass.decidedFor
    cases found : w.subjects.get? id with
    | none => exact stands
    | some subject =>
      have self := filed id subject found
      simp only []
      split
      · exact stands
      · refine stands.of_apart coherent registered known ?_
          (Pass.decided_apart w book subject.record _ c { s with visited := [] }) ?_
        · exact fun same => others.1 (same.symm.trans self)
        · exact Pass.decided_truthful book ⟨subject, self ▸ found, rfl⟩ _ _ _ stands.truthful

/-- The subject itself is decided. -/
theorem own (stands : l.Stands w r store done)
    (coherent : Constraint.Coherent book.constraints store)
    (sorted : Constraint.Sorted book.constraints (c :: done)) (running : book.stopping = false)
    (ready : c.isReady = true)
    (found : w.subjects.get? r.id = some { record := r }) {s : PassState} (at' : s.ledger = l) :
    (Pass.decidedFor w book c false s r.id).ledger.Stands w r store (c :: done) := by
  subst at'
  have known : w.Knows r := ⟨_, found, rfl⟩
  have registered := sorted.registered List.mem_cons_self
  have new (d : Constraint) (mem : d ∈ done) : d.tag ≠ c.tag := by
    cases sorted with | cons _ _ once _ => exact once d mem
  have fresh (d : Constraint) (mem : d ∈ done) (_ : d.isReady = true) : d.tag ≠ c.tag := new d mem
  have there : (s.ledger.services.store.tag? c.tag).isSome = true :=
    stands.tags c.tag ▸ coherent.tags c.tag (by simp [Dict.contains, registered])
  have apart := Pass.decided_apart w book r (Pass.fullDepth book) c { s with visited := [] }
  have truthful := Pass.decided_truthful (s := { s with visited := [] }) book known
    (Pass.fullDepth book) false c stands.truthful
  have outcome := Pass.decided_outcome (w := w) (s := { s with visited := [] }) running there
    (stands.history c.tag fresh) (Pass.fullDepth book)
  have same : Pass.decidedFor w book c false s r.id =
      Pass.decided w book r (Pass.fullDepth book) false c { s with visited := [] } := by
    simp only [Pass.decidedFor, found, running, Bool.or_self, Bool.false_eq_true, if_false]
  rw [same]
  generalize Pass.decided _ _ _ _ _ _ _ = t at apart truthful outcome ⊢
  have tags (u : TagId) := (apart.tags u).trans (stands.tags u)
  have members (u : TagId) (other : c.tag ≠ u) := apart.members u r.id fun same => other same.1
  have truth (d : Constraint) (mem : d ∈ c :: done) :
      d.truth w r t.ledger.services = d.truth w r s.ledger.services :=
    truth_eq_of_sorted coherent sorted mem known stands.tags stands.truthful tags truthful members
  refine ⟨tags, truthful, fun u free => ?_, fun u free => ?_, fun d mem ready' => ?_⟩
  · rw [members u (free c List.mem_cons_self ready)]
    exact stands.members u fun d mem => free d (List.mem_cons_of_mem _ mem)
  · rw [apart.history u r.id fun same => free c List.mem_cons_self ready same.1]
    exact stands.history u fun d mem => free d (List.mem_cons_of_mem _ mem)
  · rw [truth d mem]
    rcases List.mem_cons.1 mem with rfl | mem
    · rw [outcome]
      exact congrArg _ (stands.members d.tag fresh)
    · rw [members d.tag (new d mem).symm]
      exact stands.outcome d mem ready'

/-- The next constraint in order. -/
theorem next (stands : l.Stands w r store done)
    (coherent : Constraint.Coherent book.constraints store)
    (sorted : Constraint.Sorted book.constraints (c :: done)) (running : book.stopping = false)
    (filed : w.Filed) (distinct : ids.Nodup) (mem : r.id ∈ ids)
    (found : w.subjects.get? r.id = some { record := r }) :
    (Pass.swept w book false ids l c).Stands w r store (c :: done) := by
  unfold Pass.swept
  cases ready : c.isReady with
  | false =>
    refine ⟨stands.tags, stands.truthful, fun u free => ?_, fun u free => ?_, fun d mem ready' => ?_⟩
    · exact stands.members u fun d mem => free d (List.mem_cons_of_mem _ mem)
    · exact stands.history u fun d mem => free d (List.mem_cons_of_mem _ mem)
    · rcases List.mem_cons.1 mem with rfl | mem
      · cases ready.symm.trans ready'
      · exact stands.outcome d mem ready'
  | true =>
    have known : w.Knows r := ⟨_, found, rfl⟩
    have registered (d : Constraint) (mem : d ∈ done) :=
      sorted.registered (List.mem_cons_of_mem c mem)
    obtain ⟨before, after, rfl⟩ := List.append_of_mem mem
    obtain ⟨-, ⟨unique, -⟩, apart⟩ := by simpa only [List.nodup_append, List.nodup_cons] using distinct
    have absent : r.id ∉ before := fun mem => apart _ mem _ List.mem_cons_self rfl
    rw [if_pos rfl, List.foldl_append, List.foldl_cons]
    have first := stands.foldl_other (s := { ledger := l }) coherent registered known filed c absent rfl
    have second := first.own coherent sorted running ready found rfl
    exact second.foldl_other coherent (fun d mem => sorted.registered mem) known filed c unique rfl

/-- A sweep in order. -/
theorem sweep (coherent : Constraint.Coherent book.constraints store)
    (sorted : Constraint.Sorted book.constraints done) (running : book.stopping = false)
    (filed : w.Filed) (distinct : ids.Nodup) (mem : r.id ∈ ids)
    (found : w.subjects.get? r.id = some { record := r }) (start : l.Stands w r store []) :
    (done.reverse.foldl (Pass.swept w book false ids) l).Stands w r store done := by
  induction done with
  | nil => exact start
  | cons c done ih =>
    have before : Constraint.Sorted book.constraints done := by
      cases sorted with | cons before _ _ _ => exact before
    rw [List.reverse_cons, List.foldl_append]
    exact (ih before).next coherent sorted running filed distinct mem found

end Stands

/-- Several constraints are settled for all subjects. -/
structure Rests (w : World) (cs : List Constraint) (l : Ledger) : Prop where
  truthful : l.services.Truthful w
  settled : ∀ id subject, w.subjects.get? id = some subject → ∀ c ∈ cs, c.isReady = true →
    c.Settled w subject.record l.services

namespace Rests

variable {cs : List Constraint}

theorem of_rolls (rests : l.Rests w cs) (filed : w.Filed)
    (rolls : l'.services.store.rolls = l.services.store.rolls)
    (truthful : l'.services.Truthful w) : l'.Rests w cs where
  truthful := truthful
  settled id subject found c mem ready := by
    have self := filed id subject found
    have known : w.Knows subject.record := ⟨subject, self.symm ▸ found, rfl⟩
    exact (rests.settled id subject found c mem ready).congr
      (Constraint.truth_congr (truthful.view_congr rests.truthful known rolls))
      (TagStore.isTagged_congr rolls)

/-- Settled constraints are decided, and no membership changes. -/
theorem foldl_decided (rests : l.Rests w cs) (filed : w.Filed) (mem : c ∈ cs)
    (ready : c.isReady = true) (check : Bool) (ids : List SubjectId) {s : PassState}
    (at' : s.ledger = l) :
    let t := ids.foldl (Pass.decidedFor w book c check) s
    t.ledger.services.store.rolls = l.services.store.rolls ∧ t.ledger.Rests w cs := by
  induction ids generalizing s l with
  | nil => exact ⟨congrArg (·.services.store.rolls) at', at' ▸ rests⟩
  | cons id ids ih =>
    subst at'
    have first : (Pass.decidedFor w book c check s id).ledger.services.store.rolls =
        s.ledger.services.store.rolls := by
      unfold Pass.decidedFor
      cases found : w.subjects.get? id with
      | none => rfl
      | some subject =>
        simp only []
        split
        · rfl
        · exact (Pass.decided_idle (s := { s with visited := [] }) book
            (rests.settled id subject found c mem ready) _ _).rolls
    have truthful := Pass.decidedFor_truthful filed book c check id rests.truthful
    obtain ⟨rolls, rest⟩ := ih (rests.of_rolls filed first truthful) rfl
    exact ⟨rolls.trans first, rest⟩

/-- Another sweep changes no membership. -/
theorem sweep (rests : l.Rests w cs) (filed : w.Filed) (check : Bool) (ids : List SubjectId)
    {met : List Constraint} (among : ∀ c ∈ met, c ∈ cs) :
    let l' := met.foldl (Pass.swept w book check ids) l
    l'.services.store.rolls = l.services.store.rolls ∧ l'.Rests w cs := by
  induction met generalizing l with
  | nil => exact ⟨rfl, rests⟩
  | cons c met ih =>
    have first : (Pass.swept w book check ids l c).services.store.rolls = l.services.store.rolls ∧
        (Pass.swept w book check ids l c).Rests w cs := by
      unfold Pass.swept
      split
      · next ready => exact rests.foldl_decided filed (among c List.mem_cons_self) ready check ids rfl
      · exact ⟨rfl, rests⟩
    obtain ⟨rolls, rest⟩ := ih first.2 fun d mem => among d (List.mem_cons_of_mem _ mem)
    exact ⟨rolls.trans first.1, rest⟩

end Rests

/-- A constraint that has the outcome it calls for is settled. -/
theorem settled_of_outcome {s : Services} {member : Bool}
    (outcome : s.store.isTagged c.tag r.id = c.options.outcome (c.truth w r s) member) :
    c.Settled w r s where
  adds holds allowed := by
    rw [outcome, holds]
    simp [Options.outcome, allowed]
  removes fails allowed := by
    rw [outcome, fails]
    simp [Options.outcome, allowed]

end Ledger

end TagRules
