import Mathlib.Algebra.Ring.Nat
import TagRules.Proofs.Registry.Steps

/-!
# Following up comes to an end

Following up as rounds of a queue: the first subject that waits is decided anew, or dropped because
that was done too often. Each subject waits at most once, and as deciding a subject touches no other
one, only a subject that was just decided can come back. So the decisions that the subjects of the
queue still have ahead of them become fewer with each round (`FollowUp.capacity`), and nobody is
forgotten: the last decision for a subject changed nothing, or no more were allowed
(`Registry.followUp_bounded`).
-/

namespace TagRules

/-- The state of following up. -/
structure FollowUp where
  /-- The subjects that wait. -/
  queue : List SubjectId
  /-- How often each subject was taken from the queue. -/
  runs : Dict SubjectId Nat
  registry : Registry

/-- A subject that is decided anew, and the registry that decides it. -/
structure Rerun where
  subject : SubjectId
  registry : Registry

/-- Deciding the subject anew changes no membership. -/
def Rerun.Calm (w : World) (x : Rerun) : Prop :=
  (x.registry.applyToOne w x.subject).2.store.rolls = x.registry.store.rolls ∧
    (x.registry.applyToOne w x.subject).2.store.log = x.registry.store.log

namespace FollowUp

/-- How often a subject was taken from the queue. -/
def count (f : FollowUp) (id : SubjectId) : Nat :=
  (f.runs.get? id).getD 0

/-- Following up begins: after the first assignment, the subjects that were touched wait. -/
def start (r : Registry) (touched : List SubjectId) : FollowUp :=
  ⟨if r.initialDone then enqueue [] touched else [], {}, r⟩

/-- The first subject is taken from the queue and decided anew. -/
def rerun (w : World) (f : FollowUp) (id : SubjectId) (rest : List SubjectId) : FollowUp :=
  ⟨enqueue rest (f.registry.applyToOne w id).1, f.runs.insert id (f.count id + 1),
    (f.registry.applyToOne w id).2⟩

/-- The first subject is taken from the queue and dropped. -/
def drop (f : FollowUp) (id : SubjectId) (rest : List SubjectId) : FollowUp :=
  ⟨rest, f.runs.insert id (f.count id + 1), f.registry⟩

/-- Rounds of following up, with the subjects that are decided anew in them, in this order. -/
inductive Rounds (w : World) : FollowUp → List Rerun → FollowUp → Prop
  | refl (f) : Rounds w f [] f
  | rerun {f id rest reruns g} (first : f.queue = id :: rest) (running : f.registry.stopping = false)
    (few : f.count id < maxFollowUps) (later : Rounds w (f.rerun w id rest) reruns g) :
    Rounds w f (⟨id, f.registry⟩ :: reruns) g
  | drop {f id rest reruns g} (first : f.queue = id :: rest) (running : f.registry.stopping = false)
    (often : maxFollowUps ≤ f.count id) (later : Rounds w (f.drop id rest) reruns g) :
    Rounds w f reruns g

/-- No round is left. -/
def Over (f : FollowUp) : Prop :=
  f.queue = [] ∨ f.registry.stopping = true

/-- How many more rounds there can be for the subjects that wait. -/
def capacity (f : FollowUp) : Nat :=
  (f.queue.map fun id => maxFollowUps + 1 - f.count id).sum

/-- Each subject waits once, and none that was dropped waits. -/
structure Orderly (f : FollowUp) : Prop where
  nodup : f.queue.Nodup
  few : ∀ id ∈ f.queue, f.count id ≤ maxFollowUps

end FollowUp

/-- The reruns of a subject. -/
def rerunsOf (id : SubjectId) (reruns : List Rerun) : List Rerun :=
  reruns.filter (·.subject = id)

/-! ### The queue -/

theorem nodup_enqueue {queue : List SubjectId} (nodup : queue.Nodup) (more : List SubjectId) :
    (enqueue queue more).Nodup := by
  refine List.foldlRecOn more _ nodup fun queue nodup id _ => ?_
  split
  · exact nodup
  · next absent =>
    rw [List.contains_iff_mem] at absent
    refine List.nodup_append.2 ⟨nodup, List.pairwise_singleton _ id, fun other mem _ own => ?_⟩
    rw [List.mem_singleton.1 own]
    exact fun same => absent (same ▸ mem)

theorem mem_enqueue_iff {queue more : List SubjectId} {id : SubjectId} :
    id ∈ enqueue queue more ↔ id ∈ queue ∨ id ∈ more := by
  refine ⟨mem_enqueue, fun h => ?_⟩
  induction more generalizing queue with
  | nil => exact h.resolve_right List.not_mem_nil
  | cons other more ih =>
    refine ih ?_
    simp only [List.mem_cons] at h
    dsimp only
    split
    · next present =>
      rw [List.contains_iff_mem] at present
      rcases h with h | rfl | h
      · exact .inl h
      · exact .inl present
      · exact .inr h
    · rw [List.mem_append, List.mem_singleton]
      tauto

/-- Where only one subject can be appended, it is appended once. -/
theorem enqueue_own {queue more : List SubjectId} {id : SubjectId} (absent : id ∉ queue)
    (own : ∀ other ∈ more, other = id) :
    enqueue queue more = if more = [] then queue else queue ++ [id] := by
  have stays (more : List SubjectId) (own : ∀ other ∈ more, other = id) :
      enqueue (queue ++ [id]) more = queue ++ [id] := by
    induction more with
    | nil => rfl
    | cons other more ih =>
      obtain ⟨rfl, own⟩ := List.forall_mem_cons.1 own
      have present : (queue ++ [other]).contains other = true := by simp
      rw [enqueue, List.foldl_cons, if_pos present]
      exact ih own
  cases more with
  | nil => rfl
  | cons other more =>
    obtain ⟨rfl, own⟩ := List.forall_mem_cons.1 own
    have missing : queue.contains other = false := by simpa using absent
    rw [if_neg (List.cons_ne_nil _ _), enqueue, List.foldl_cons, missing]
    exact stays more own

namespace FollowUp

variable {w : World} {f g : FollowUp} {id other : SubjectId} {rest : List SubjectId}
  {reruns : List Rerun}

@[simp] theorem count_rerun : (f.rerun w id rest).count other =
    if id = other then f.count id + 1 else f.count other := by
  simp only [count, rerun, Dict.get?_insert]
  split <;> rfl

@[simp] theorem count_drop : (f.drop id rest).count other =
    if id = other then f.count id + 1 else f.count other := by
  simp only [count, drop, Dict.get?_insert]
  split <;> rfl

/-- Deciding a subject touches no other one. -/
theorem touched_own (filed : w.Filed) (r : Registry) (id : SubjectId) :
    ∀ other ∈ (r.applyToOne w id).1, other = id := by
  intro other mem
  obtain ⟨record, asked, rfl⟩ := (r.applyToOne_steps w id).ledger.who_of_mem mem
  exact asked.asked filed

/-- The first subject that waits does so once, and so do the others. -/
theorem Orderly.tail (orderly : f.Orderly) (first : f.queue = id :: rest) :
    id ∉ rest ∧ rest.Nodup := by
  rw [← List.nodup_cons, ← first]
  exact orderly.nodup

/-- The queue after a subject was decided anew: it waits again if its membership was changed. -/
theorem queue_rerun (filed : w.Filed) (orderly : f.Orderly) (first : f.queue = id :: rest) :
    (f.rerun w id rest).queue =
      if (f.registry.applyToOne w id).1 = [] then rest else rest ++ [id] :=
  enqueue_own (orderly.tail first).1 (touched_own filed f.registry id)

theorem stopping_rerun : (f.rerun w id rest).registry.stopping = f.registry.stopping :=
  congrArg Rulebook.stopping (f.registry.applyToOne_steps w id).rulebook

theorem Orderly.rerun (filed : w.Filed) (orderly : f.Orderly) (first : f.queue = id :: rest)
    (few : f.count id < maxFollowUps) : (f.rerun w id rest).Orderly := by
  refine ⟨nodup_enqueue (orderly.tail first).2 _, fun other mem => ?_⟩
  rw [count_rerun]
  split
  · exact few
  · next different =>
    refine orderly.few other ?_
    rw [first]
    rcases mem_enqueue mem with mem | mem
    · exact List.mem_cons_of_mem _ mem
    · exact absurd (touched_own filed _ _ _ mem).symm different

theorem Orderly.drop (orderly : f.Orderly) (first : f.queue = id :: rest) :
    (f.drop id rest).Orderly := by
  obtain ⟨absent, nodup⟩ := orderly.tail first
  refine ⟨nodup, fun other mem => ?_⟩
  have different : id ≠ other := fun same => absent (same ▸ mem)
  rw [count_drop, if_neg different]
  exact orderly.few other (first ▸ List.mem_cons_of_mem _ mem)

theorem orderly_start (r : Registry) (touched : List SubjectId) : (start r touched).Orderly := by
  refine ⟨?_, fun _ _ => Nat.zero_le _⟩
  unfold start
  dsimp only
  split
  · exact nodup_enqueue List.nodup_nil touched
  · exact List.nodup_nil

/-- Each subject waits at most once. -/
theorem Rounds.orderly (filed : w.Filed) (h : f.Rounds w reruns g) (orderly : f.Orderly) :
    g.Orderly := by
  induction h with
  | refl => exact orderly
  | rerun first _ few _ ih => exact ih (orderly.rerun filed first few)
  | drop first _ _ _ ih => exact ih (orderly.drop first)

/-! ### Termination -/

/-- The capacity of the subjects other than the first one does not depend on what happens to it. -/
theorem capacity_rest (absent : id ∉ rest) (n : Nat) :
    (rest.map fun other => maxFollowUps + 1 - if id = other then n else f.count other).sum =
      (rest.map fun other => maxFollowUps + 1 - f.count other).sum := by
  congr 1
  refine List.map_congr_left fun other mem => ?_
  have different : id ≠ other := fun same => absent (same ▸ mem)
  rw [if_neg different]

theorem capacity_rerun (filed : w.Filed) (orderly : f.Orderly) (first : f.queue = id :: rest) :
    (f.rerun w id rest).capacity < f.capacity := by
  have absent := (orderly.tail first).1
  have few := orderly.few id (first ▸ List.mem_cons_self)
  unfold capacity
  rw [queue_rerun filed orderly first, first]
  simp only [count_rerun, List.map_cons, List.sum_cons]
  split
  · rw [capacity_rest absent]
    omega
  · rw [List.map_append, List.sum_append, capacity_rest absent]
    simp only [List.map_cons, List.map_nil, List.sum_cons, List.sum_nil, if_true]
    omega

theorem capacity_drop (orderly : f.Orderly) (first : f.queue = id :: rest) :
    (f.drop id rest).capacity < f.capacity := by
  have absent := (orderly.tail first).1
  have few := orderly.few id (first ▸ List.mem_cons_self)
  unfold capacity
  rw [first]
  simp only [count_drop, List.map_cons, List.sum_cons]
  rw [drop, capacity_rest absent]
  omega

/-- Following up with enough fuel takes rounds until none is left. -/
theorem exists_rounds (filed : w.Filed) (fuel : Nat) (f : FollowUp) (orderly : f.Orderly)
    (enough : f.capacity ≤ fuel) : ∃ reruns g, f.Rounds w reruns g ∧ g.Over ∧
      g.registry = Registry.followUpFrom w fuel f.queue f.runs f.registry := by
  induction fuel generalizing f with
  | zero =>
    refine ⟨[], f, .refl f, .inl ?_, rfl⟩
    by_contra some
    obtain ⟨id, rest, first⟩ := List.exists_cons_of_ne_nil some
    have less := capacity_drop orderly first
    omega
  | succ fuel ih =>
    cases first : f.queue with
    | nil => exact ⟨[], f, .refl f, .inl first, rfl⟩
    | cons id rest =>
      unfold Registry.followUpFrom
      cases running : f.registry.stopping with
      | true => exact ⟨[], f, .refl f, .inr running, rfl⟩
      | false =>
        dsimp only
        split
        · contradiction
        · split
          · next often =>
            have less := capacity_drop orderly first
            obtain ⟨reruns, g, rounds, ended, same⟩ := ih _ (orderly.drop first) (by omega)
            exact ⟨reruns, g, .drop first running (Nat.le_of_lt_succ often) rounds, ended, same⟩
          · next few =>
            have few : f.count id < maxFollowUps := Nat.lt_of_succ_le (Nat.le_of_not_lt few)
            have less := capacity_rerun filed orderly first
            obtain ⟨reruns, g, rounds, ended, same⟩ := ih _ (orderly.rerun filed first few) (by omega)
            exact ⟨_, g, .rerun first running few rounds, ended, same⟩

/-- At the beginning, there is fuel for every round. -/
theorem capacity_start (r : Registry) (touched : List SubjectId) :
    (start r touched).capacity = (maxFollowUps + 1) * (start r touched).queue.length := by
  unfold capacity
  have whole (id) : maxFollowUps + 1 - (start r touched).count id = maxFollowUps + 1 :=
    rfl
  simp only [whole, List.map_const', List.sum_replicate_nat, Nat.mul_comm]

/-! ### Nothing is left pending -/

theorem rerunsOf_cons (id : SubjectId) (x : Rerun) (reruns : List Rerun) :
    rerunsOf id (x :: reruns) =
      if x.subject = id then x :: rerunsOf id reruns else rerunsOf id reruns := by
  simp only [rerunsOf, List.filter_cons, decide_eq_true_eq]

/-- A subject that does not wait is not decided anew. -/
theorem Rounds.rerunsOf_eq_nil (filed : w.Filed) (h : f.Rounds w reruns g)
    (absent : id ∉ f.queue) : rerunsOf id reruns = [] := by
  induction h with
  | refl => rfl
  | @rerun f other rest _ _ first _ _ _ ih =>
    rw [first, List.mem_cons, not_or] at absent
    rw [rerunsOf_cons, if_neg (fun same => absent.1 same.symm)]
    refine ih fun mem => ?_
    rcases mem_enqueue mem with mem | mem
    · exact absent.2 mem
    · exact absent.1 (touched_own filed _ _ _ mem)
  | drop first _ _ _ ih =>
    rw [first, List.mem_cons, not_or] at absent
    exact ih absent.2

/-- What following up owes a subject that waits: decisions until one changes nothing or no more are
allowed. -/
def Paid (w : World) (before : Nat) (own : List Rerun) : Prop :=
  before + own.length ≤ maxFollowUps ∧
    (before + own.length = maxFollowUps ∨ ∃ x, own.getLast? = some x ∧ x.Calm w)

/-- One more decision before those that are owed. -/
theorem Paid.cons {before : Nat} {own : List Rerun} (x : Rerun) (h : Paid w (before + 1) own) :
    Paid w before (x :: own) := by
  obtain ⟨most, last⟩ := h
  have length : before + (x :: own).length = before + 1 + own.length := by
    rw [List.length_cons]
    omega
  refine ⟨length ▸ most, ?_⟩
  rw [length]
  refine last.imp_right fun ⟨y, last, calm⟩ => ⟨y, ?_, calm⟩
  rw [List.getLast?_cons, last, Option.getD_some]

theorem calm_of_untouched {r : Registry} (none : (r.applyToOne w id).1 = []) :
    Rerun.Calm w ⟨id, r⟩ := by
  obtain ⟨rolls, log, -⟩ := (r.applyToOne_steps w id).untouched none
  exact ⟨rolls, log⟩

/-- When following up is over, every subject that waited got what it was owed. The induction is on
the rounds; a subject comes back as long as its decisions touch it. -/
theorem Rounds.paid (filed : w.Filed) (h : f.Rounds w reruns g) (orderly : f.Orderly)
    (running : f.registry.stopping = false) (ended : g.Over) (waits : id ∈ f.queue) :
    Paid w (f.count id) (rerunsOf id reruns) := by
  induction h with
  | refl f =>
    rcases ended with none | stopping
    · rw [none] at waits
      cases waits
    · rw [running] at stopping
      cases stopping
  | @rerun f first rest reruns g eq _ few later ih =>
    have absent := (orderly.tail eq).1
    have next := ih (orderly.rerun filed eq few) (stopping_rerun.trans running) ended
    have queue := queue_rerun filed orderly eq
    rw [rerunsOf_cons]
    by_cases own : first = id
    · subst own
      rw [if_pos rfl]
      by_cases none : (f.registry.applyToOne w first).1 = []
      · rw [if_pos none] at queue
        have gone : first ∉ (f.rerun w first rest).queue := by
          rw [queue]
          exact absent
        rw [later.rerunsOf_eq_nil filed gone]
        exact ⟨few, .inr ⟨_, rfl, calm_of_untouched none⟩⟩
      · rw [if_neg none] at queue
        have back : first ∈ (f.rerun w first rest).queue := by
          rw [queue]
          exact List.mem_append_right _ List.mem_cons_self
        have owed := next back
        rw [count_rerun, if_pos rfl] at owed
        exact owed.cons _
    · rw [if_neg own]
      have still : id ∈ (f.rerun w first rest).queue := by
        rw [eq, List.mem_cons] at waits
        exact mem_enqueue_iff.2 (.inl (waits.resolve_left (Ne.symm own)))
      have owed := next still
      rwa [count_rerun, if_neg own] at owed
  | @drop f first rest reruns g eq _ often later ih =>
    have absent := (orderly.tail eq).1
    by_cases own : first = id
    · subst own
      have full := Nat.le_antisymm (orderly.few first waits) often
      rw [later.rerunsOf_eq_nil filed absent]
      exact ⟨Nat.le_of_eq full, .inl full⟩
    · rw [eq, List.mem_cons] at waits
      have owed := ih (orderly.drop eq) running ended (waits.resolve_left (Ne.symm own))
      rwa [count_drop, if_neg own] at owed

end FollowUp

namespace Registry

/-- Following up what was touched takes rounds until none is left, and no subject ever waits twice.
After the first assignment, and while nothing is stopping: a subject that was touched is decided anew
at least once and at most `maxFollowUps` times, no other subject is, and when it is over, the last
decision for each subject changed no membership or no more were allowed. -/
theorem followUp_bounded {w : World} (filed : w.Filed) (r : Registry) (touched : List SubjectId) :
    (∃ reruns last, (FollowUp.start r touched).Rounds w reruns last ∧ last.Over ∧
      last.registry = r.followUp w touched) ∧
    ∀ reruns f, (FollowUp.start r touched).Rounds w reruns f → f.queue.Nodup ∧
      (f.Over → r.initialDone = true → r.stopping = false → ∀ id,
        (id ∉ touched → rerunsOf id reruns = []) ∧
        (id ∈ touched → 1 ≤ (rerunsOf id reruns).length ∧
          (rerunsOf id reruns).length ≤ maxFollowUps ∧
          ((rerunsOf id reruns).length = maxFollowUps ∨
            ∃ x, (rerunsOf id reruns).getLast? = some x ∧ x.Calm w))) := by
  have orderly := FollowUp.orderly_start r touched
  refine ⟨?_, fun reruns f rounds => ⟨(rounds.orderly filed orderly).nodup, ?_⟩⟩
  · obtain ⟨reruns, last, rounds, ended, same⟩ := FollowUp.exists_rounds filed
      ((maxFollowUps + 1) * (FollowUp.start r touched).queue.length) _ orderly
      (Nat.le_of_eq (FollowUp.capacity_start r touched))
    refine ⟨reruns, last, rounds, ended, same.trans ?_⟩
    unfold followUp FollowUp.start
    cases done : r.initialDone with
    | false =>
      simp only [Bool.not_false, Bool.or_true, if_true]
      rfl
    | true =>
      cases touched with
      | nil => rfl
      | cons id touched => rfl
  · intro ended done running id
    have queue : (FollowUp.start r touched).queue = enqueue [] touched := if_pos done
    have waits : id ∈ (FollowUp.start r touched).queue ↔ id ∈ touched := by
      rw [queue, mem_enqueue_iff]
      exact or_iff_right List.not_mem_nil
    refine ⟨fun absent => rounds.rerunsOf_eq_nil filed (mt waits.1 absent), fun mem => ?_⟩
    obtain ⟨most, last⟩ := rounds.paid filed orderly running ended (waits.2 mem)
    have zero : (FollowUp.start r touched).count id = 0 := rfl
    rw [zero, Nat.zero_add] at most last
    refine ⟨?_, most, last⟩
    rcases last with full | ⟨x, last, -⟩
    · rw [full]
      decide
    · exact List.length_pos_of_mem (List.mem_of_getLast? last)

/-- A registry after the first assignment whose only constraint is for a tag that it forbids. -/
def restless : Registry :=
  let tagged := Registry.mapStore { cooldown := 0, initialDone := true }
    (·.insertTag { id := ⟨1⟩, name := "Odd" })
  (tagged.setConstraint Engine.loneSubject ⟨1⟩ "!hasTag(\"Odd\")" "" true).2

/-- The subject joins and leaves the tag until no more decisions are allowed. -/
theorem restless_bounded :
    Engine.loneSubject.Filed ∧ restless.initialDone = true ∧ restless.stopping = false ∧
    (restless.followUp Engine.loneSubject [⟨7⟩]).store.log.length = maxFollowUps ∧
    ∃ reruns last, (FollowUp.start restless [⟨7⟩]).Rounds Engine.loneSubject reruns last ∧
      last.Over ∧ last.registry = restless.followUp Engine.loneSubject [⟨7⟩] ∧
      1 ≤ (rerunsOf ⟨7⟩ reruns).length ∧ (rerunsOf ⟨7⟩ reruns).length ≤ maxFollowUps ∧
      rerunsOf ⟨8⟩ reruns = [] := by
  have filed : Engine.loneSubject.Filed := .of_entries (by decide)
  have done : restless.initialDone = true := by decide +kernel
  have running : restless.stopping = false := by decide +kernel
  obtain ⟨⟨reruns, last, rounds, ended, same⟩, each⟩ := followUp_bounded filed restless [⟨7⟩]
  obtain ⟨-, all⟩ := each reruns last rounds
  obtain ⟨some, most, -⟩ := (all ended done running ⟨7⟩).2 (List.mem_singleton_self _)
  have none := (all ended done running ⟨8⟩).1 (by decide)
  exact ⟨filed, done, running, by decide +kernel, reruns, last, rounds, ended, same, some, most, none⟩

end Registry

end TagRules
