import TagRules.Proofs.Registry.Steps

/-!
# Resolving dependencies comes to an end

To decide a constraint is to settle it at once, or to expand it: the constraints that it depends on are
decided first, and then it is decided once more, without dependencies (`Pass.Resolution`). An expanded
tag is noted and not expanded again, so the number of tags that may still be expanded decreases from
one expansion to those within it. This holds whatever a test answers and does to the ledger, and
whatever the tags depend on. The depth that `Pass.resolve` allows is enough for it
(`Pass.resolve_terminates`).
-/

namespace TagRules

/-- Tests a constraint: an answer, and the ledger afterwards. -/
abbrev Tester := Constraint → Ledger → Bool × Ledger

namespace Pass

/-- How a decision begins: it is settled at once, or the constraint is expanded. -/
inductive Opening where
  | settled (s : PassState)
  | expanded (s : PassState)

/-- Decide a constraint for a subject, up to the point where others have to be decided first. -/
def opening (ask : Tester) (w : World) (book : Rulebook) (id : SubjectId) (check : Bool)
    (c : Constraint) (s : PassState) : Opening :=
  if check && s.visited.contains c.tag then .settled s
  else
    let t := { s with ledger := (ask c s.ledger).2 }
    if !(ask c s.ledger).1 then .settled (removed book c id t)
    else if !c.options.autoAdd || t.ledger.services.store.isTagged c.tag id then .settled t
    else if (firsts book check c).isEmpty then .settled (added w book c id t)
    else .expanded { t with visited := c.tag :: s.visited }

/-- The decisions within an expansion, with dependencies or without: those of the constraints that it
is about to depend on, and its own once more. -/
def expansion (book : Rulebook) (c : Constraint) : List (Bool × Constraint) :=
  (firsts book true c).map (true, ·) ++ [(false, c)]

/-- Decisions one after the other, with the tags that are expanded, in order. There is no bound on the
depth. -/
inductive Resolution (ask : Tester) (w : World) (book : Rulebook) (id : SubjectId) :
    List (Bool × Constraint) → PassState → List TagId → PassState → Prop
  | nil (s) : Resolution ask w book id [] s [] s
  | settled {check c calls s t expanded u} (opens : opening ask w book id check c s = .settled t)
    (rest : Resolution ask w book id calls t expanded u) :
    Resolution ask w book id ((check, c) :: calls) s expanded u
  | expanded {check c calls s t inner t' later u}
    (opens : opening ask w book id check c s = .expanded t)
    (within : Resolution ask w book id (expansion book c) t inner t')
    (rest : Resolution ask w book id calls t' later u) :
    Resolution ask w book id ((check, c) :: calls) s (c.tag :: inner ++ later) u

variable {ask : Tester} {w : World} {book : Rulebook} {id : SubjectId} {r : SubjectRecord}
  {check : Bool} {c : Constraint} {s t u : PassState}

@[simp] theorem removed_visited (book : Rulebook) (c : Constraint) (id : SubjectId) (s : PassState) :
    (removed book c id s).visited = s.visited := by
  unfold removed
  split <;> rfl

@[simp] theorem added_visited (w : World) (book : Rulebook) (c : Constraint) (id : SubjectId)
    (s : PassState) : (added w book c id s).visited = s.visited := by
  unfold added
  split <;> rfl

/-- What is settled at once leaves the notes on expanded tags alone. -/
theorem visited_of_settled (opens : opening ask w book id check c s = .settled t) :
    t.visited = s.visited := by
  unfold opening at opens
  dsimp only at opens
  repeat' split at opens
  all_goals cases opens
  all_goals simp

/-- Only with dependencies is a constraint expanded, only if its tag was not expanded before, and this
is noted. -/
theorem of_expanded (opens : opening ask w book id check c s = .expanded t) :
    check = true ∧ c.tag ∉ s.visited ∧ t.visited = c.tag :: s.visited := by
  unfold opening at opens
  dsimp only at opens
  split at opens
  · cases opens
  next fresh =>
  repeat' split at opens
  all_goals cases opens
  next some =>
  have checked : check = true := by
    by_contra unchecked
    simp [firsts, unchecked] at some
  exact ⟨checked, by simpa [checked] using fresh, rfl⟩

/-- An expansion leaves fewer tags to expand. -/
theorem unseen_of_expanded (opens : opening ask w book id check c s = .expanded t) {tags : List TagId}
    (own : check = true → c.tag ∈ tags) :
    Registry.unseen tags t.visited < Registry.unseen tags s.visited := by
  obtain ⟨checked, fresh, noted⟩ := of_expanded opens
  rw [noted]
  exact Registry.unseen_cons_lt fresh (own checked)

namespace Resolution

variable {calls : List (Bool × Constraint)} {expanded expanded' : List TagId}

/-- What is noted in the end are the tags that were expanded, and those noted before. -/
theorem visited (h : Resolution ask w book id calls s expanded t) :
    t.visited = expanded.reverse ++ s.visited := by
  induction h with
  | nil => rfl
  | settled opens _ ih => rw [ih, visited_of_settled opens]
  | expanded opens _ _ inner later =>
    obtain ⟨-, -, noted⟩ := of_expanded opens
    simp [later, inner, noted]

/-- Decisions leave no more tags to expand. -/
theorem unseen_le (h : Resolution ask w book id calls s expanded t) (tags : List TagId) :
    Registry.unseen tags t.visited ≤ Registry.unseen tags s.visited := by
  refine Registry.unseen_le_of_subset tags ?_
  rw [h.visited]
  exact List.subset_append_right ..

/-- A tag is expanded only if it was not noted. -/
theorem fresh_of_mem (h : Resolution ask w book id calls s expanded t) {tag : TagId}
    (mem : tag ∈ expanded) : tag ∉ s.visited := by
  induction h with
  | nil => cases mem
  | settled opens _ ih => exact visited_of_settled opens ▸ ih mem
  | @expanded _ c _ s _ first _ _ _ opens within _ inner later =>
    obtain ⟨-, fresh, noted⟩ := of_expanded opens
    rw [List.cons_append, List.mem_cons, List.mem_append] at mem
    rcases mem with rfl | mem | mem
    · exact fresh
    · exact fun old => inner mem (noted ▸ List.mem_cons_of_mem _ old)
    · refine fun old => later mem ?_
      rw [within.visited, noted]
      exact List.mem_append_right _ (List.mem_cons_of_mem _ old)

/-- No tag is expanded twice. -/
theorem nodup (h : Resolution ask w book id calls s expanded t) : expanded.Nodup := by
  induction h with
  | nil => exact .nil
  | settled _ _ ih => exact ih
  | expanded opens within rest inner later =>
    obtain ⟨-, -, noted⟩ := of_expanded opens
    have marked := within.visited
    rw [noted] at marked
    rw [List.cons_append]
    refine List.nodup_cons.2 ⟨fun mem => ?_, List.nodup_append.2 ⟨inner, later, ?_⟩⟩
    · rcases List.mem_append.1 mem with mem | mem
      · exact within.fresh_of_mem mem (noted ▸ List.mem_cons_self)
      · exact rest.fresh_of_mem mem (marked ▸ by simp)
    · rintro tag mem _ mem' rfl
      exact rest.fresh_of_mem mem' (marked ▸ by simp [mem])

/-- The second decision of an expanded constraint, without dependencies, expands nothing. -/
theorem eq_nil_of_unchecked (h : Resolution ask w book id [(false, c)] s expanded t) :
    expanded = [] := by
  cases h with
  | settled _ rest =>
    cases rest
    rfl
  | expanded opens => cases (of_expanded opens).1

/-- There is one resolution at most. -/
theorem unique (h : Resolution ask w book id calls s expanded t)
    (h' : Resolution ask w book id calls s expanded' u) : expanded' = expanded ∧ u = t := by
  induction h generalizing expanded' u with
  | nil =>
    cases h'
    exact ⟨rfl, rfl⟩
  | settled opens _ ih =>
    cases h' with
    | settled opens' rest' =>
      cases opens.symm.trans opens'
      exact ih rest'
    | expanded opens' => cases opens.symm.trans opens'
  | expanded opens _ _ inner later =>
    cases h' with
    | settled opens' => cases opens.symm.trans opens'
    | expanded opens' within' rest' =>
      cases opens.symm.trans opens'
      obtain ⟨rfl, rfl⟩ := inner within'
      obtain ⟨rfl, rfl⟩ := later rest'
      exact ⟨rfl, rfl⟩

end Resolution

/-- Within an expansion, only registered constraints are decided with dependencies. -/
theorem among_expansion {tags : List TagId} (known : ∀ c ∈ book.constraints.values, c.tag ∈ tags)
    (c : Constraint) : ∀ call ∈ expansion book c, call.1 = true → call.2.tag ∈ tags := by
  intro call mem checked
  rcases List.mem_append.1 mem with dep | again
  · obtain ⟨d, first, rfl⟩ := List.mem_map.1 dep
    obtain ⟨tag, -, found, -⟩ := of_mem_firsts first
    exact known d (Dict.mem_values.2 ⟨tag, found⟩)
  · cases List.mem_singleton.1 again
    cases checked

/-- Deciding comes to an end. The induction is on the number of tags that may still be expanded. -/
theorem exists_resolution (ask : Tester) (w : World) (book : Rulebook) (id : SubjectId)
    {tags : List TagId} (known : ∀ c ∈ book.constraints.values, c.tag ∈ tags)
    (calls : List (Bool × Constraint)) (s : PassState)
    (among : ∀ call ∈ calls, call.1 = true → call.2.tag ∈ tags) :
    ∃ expanded t, Resolution ask w book id calls s expanded t := by
  obtain ⟨n, bound⟩ : ∃ n, Registry.unseen tags s.visited ≤ n := ⟨_, Nat.le_refl _⟩
  induction n using Nat.strongRecOn generalizing calls s with
  | ind n fewer =>
    induction calls generalizing s with
    | nil => exact ⟨[], s, .nil s⟩
    | cons call calls next =>
      obtain ⟨check, c⟩ := call
      obtain ⟨own, among⟩ := List.forall_mem_cons.1 among
      cases opens : opening ask w book id check c s with
      | settled t =>
        obtain ⟨expanded, u, rest⟩ := next t among (by rwa [visited_of_settled opens])
        exact ⟨expanded, u, .settled opens rest⟩
      | expanded t =>
        -- within the expansion fewer tags are left, and the decisions after it are a shorter list
        have less := Nat.lt_of_lt_of_le (unseen_of_expanded opens own) bound
        obtain ⟨inner, t', within⟩ := fewer _ less (expansion book c) t (among_expansion known c)
          (Nat.le_refl _)
        obtain ⟨later, u, rest⟩ := next t' among
          (Nat.le_trans (within.unseen_le tags) (Nat.le_of_lt less))
        exact ⟨_, u, .expanded opens within rest⟩

/-- The test of a constraint is the evaluation of its expression. -/
def evaluating (w : World) (r : SubjectRecord) : Tester := fun c l =>
  (c.truth w r l.services, l.tested w c r)

theorem opening_evaluating (w : World) (book : Rulebook) (r : SubjectRecord) (check : Bool)
    (c : Constraint) (s : PassState) : opening (evaluating w r) w book r.id check c s =
      if check && s.visited.contains c.tag then .settled s
      else
        let t := tested w c r s
        if !c.truth w r s.ledger.services then .settled (removed book c r.id t)
        else if !c.options.autoAdd || t.ledger.services.store.isTagged c.tag r.id then .settled t
        else if (firsts book check c).isEmpty then .settled (added w book c r.id t)
        else .expanded { t with visited := c.tag :: t.visited } := by
  unfold opening evaluating
  rw [tested_eq]

/-- What is settled at once is decided at any depth. -/
theorem decided_of_settled (opens : opening (evaluating w r) w book r.id check c s = .settled t)
    (depth : Nat) : decided w book r depth check c s = t := by
  rw [opening_evaluating] at opens
  dsimp only at opens
  unfold decided
  dsimp only
  split at opens
  · next skips =>
    rw [if_pos skips]
    exact Opening.settled.inj opens
  next begins =>
  rw [if_neg begins]
  split at opens
  · next fails =>
    rw [if_pos fails]
    exact Opening.settled.inj opens
  next holds =>
  rw [if_neg holds]
  split at opens
  · next stays =>
    rw [if_pos stays]
    exact Opening.settled.inj opens
  next joins =>
  rw [if_neg joins]
  split at opens
  · next none =>
    rw [List.isEmpty_iff.1 none]
    cases depth <;> exact Opening.settled.inj opens
  · cases opens

/-- An expansion is decided one level deeper. -/
theorem decided_of_expanded (opens : opening (evaluating w r) w book r.id check c s = .expanded t)
    (depth : Nat) : decided w book r (depth + 1) check c s =
      (expansion book c).foldl (fun s call => decided w book r depth call.1 call.2 s) t := by
  obtain ⟨rfl, -, -⟩ := of_expanded opens
  rw [opening_evaluating] at opens
  dsimp only at opens
  conv_lhs => unfold decided
  dsimp only
  split at opens
  · cases opens
  next begins =>
  rw [if_neg begins]
  split at opens
  · cases opens
  next holds =>
  rw [if_neg holds]
  split at opens
  · cases opens
  next joins =>
  rw [if_neg joins]
  split at opens
  · cases opens
  next some =>
  cases opens
  rw [expansion, List.foldl_append, List.foldl_map]
  cases same : firsts book true c with
  | nil => simp [same] at some
  | cons d ds => rfl

/-- A depth that is not less than the number of tags that may be expanded does not cut decisions short. -/
theorem Resolution.foldl_decided {calls : List (Bool × Constraint)} {expanded : List TagId}
    (h : Resolution (evaluating w r) w book r.id calls s expanded t) {tags : List TagId}
    (known : ∀ c ∈ book.constraints.values, c.tag ∈ tags)
    (among : ∀ call ∈ calls, call.1 = true → call.2.tag ∈ tags) (depth : Nat)
    (enough : Registry.unseen tags s.visited ≤ depth) :
    calls.foldl (fun s call => decided w book r depth call.1 call.2 s) s = t := by
  induction h generalizing depth with
  | nil => rfl
  | settled opens _ ih =>
    rw [List.foldl_cons, decided_of_settled opens]
    exact ih (List.forall_mem_cons.1 among).2 depth (by rwa [visited_of_settled opens])
  | @expanded check c calls s t inner t' later u opens within _ innerDecided laterDecided =>
    obtain ⟨own, among⟩ := List.forall_mem_cons.1 among
    have less := unseen_of_expanded opens own
    have more := within.unseen_le tags
    -- as the expanded tag was unseen, the depth is not used up
    obtain ⟨deeper, rfl⟩ : ∃ deeper, depth = deeper + 1 := ⟨depth - 1, by omega⟩
    rw [List.foldl_cons, decided_of_expanded opens,
      innerDecided (among_expansion known c) deeper (by omega)]
    exact laterDecided among _ (by omega)

/-- Whatever the tags depend on, whether or not they have side effects, and whatever the tests answer and
do to the ledger, deciding a constraint for a subject from a clean slate comes to an end in one way. It
expands each tag at most once, and the second decision of an expanded constraint expands none. Where
tests evaluate expressions, `resolve` is this, at any depth that is not less than `fullDepth`; and
without dependencies, it goes no deeper. -/
theorem resolve_terminates (w : World) (book : Rulebook) (check : Bool) (c : Constraint)
    (r : SubjectRecord) (ledger : Ledger) (touched : List SubjectId) :
    let start : PassState := { ledger, touched }
    (∀ ask : Tester, ∃ expanded t, Resolution ask w book r.id [(check, c)] start expanded t ∧
      expanded.Nodup ∧ ∀ expanded' t', Resolution ask w book r.id [(check, c)] start expanded' t' →
        expanded' = expanded ∧ t' = t) ∧
    (∀ ask d s expanded t, Resolution ask w book r.id [(false, d)] s expanded t → expanded = []) ∧
    (∃ expanded t, Resolution (evaluating w r) w book r.id [(check, c)] start expanded t ∧
      ∀ depth, fullDepth book ≤ depth → (resolve w book depth check c r).run start = ((), t)) ∧
    ∀ depth d, resolve w book depth false d r = resolve w book 0 false d r := by
  intro start
  have known : ∀ d ∈ book.constraints.values, d.tag ∈ c.tag :: book.constraints.values.map (·.tag) :=
    fun d mem => List.mem_cons_of_mem _ (List.mem_map_of_mem mem)
  have among : ∀ call ∈ [(check, c)], call.1 = true →
      call.2.tag ∈ c.tag :: book.constraints.values.map (·.tag) := by
    intro call mem _
    cases List.mem_singleton.1 mem
    exact List.mem_cons_self
  have ends (ask : Tester) := exists_resolution ask w book r.id known [(check, c)] start among
  refine ⟨fun ask => ?_, fun ask d s expanded t => Resolution.eq_nil_of_unchecked, ?_, ?_⟩
  · obtain ⟨expanded, t, resolution⟩ := ends ask
    exact ⟨expanded, t, resolution, resolution.nodup, fun _ _ => resolution.unique⟩
  · obtain ⟨expanded, t, resolution⟩ := ends (evaluating w r)
    refine ⟨expanded, t, resolution, fun depth enough => ?_⟩
    have full : Registry.unseen (c.tag :: book.constraints.values.map (·.tag)) start.visited ≤ depth := by
      refine Nat.le_trans (Registry.unseen_le_length ..) ?_
      simpa [fullDepth, Dict.values, Dict.size] using enough
    rw [resolve_run]
    exact congrArg _ (resolution.foldl_decided known among depth full)
  · intro depth d
    funext s
    change (resolve w book depth false d r).run s = (resolve w book 0 false d r).run s
    rw [resolve_run, resolve_run]
    have unexpanded : firsts book false d = [] := rfl
    unfold decided
    rw [unexpanded]
    cases depth <;> rfl

end Pass

end TagRules
