import TagRules.Proofs.Registry.OnePass

/-!
# Dependencies first

A constraint whose tag has side effects is decided after the constraints that it depends on. Only
those that it names itself are sure to be decided, in the order in which it names them: a dependency
that does not hold, or whose tag the subject is in, is not followed any further. So the decision is
made with memberships that are up to date (`Registry.applyConstraint_prepared`) if the constraint
names all stale tags, each after the stale ones that it depends on. Without that, or with an edge
missing, a subject may join while a constraint below is not settled (`Registry.threeRules_unprepared`).
-/

namespace TagRules

namespace Constraint

variable {w : World} {r : SubjectRecord} {constraints : Dict TagId Constraint} {s : Services}

/-- The membership in a tag is stale: the constraint of the tag, or one that it depends on, is not
settled. -/
def Stale (w : World) (r : SubjectRecord) (constraints : Dict TagId Constraint) (s : Services)
    (tag : TagId) : Prop :=
  ∃ u d, Relation.ReflTransGen (Needs constraints) tag u ∧ constraints.get? u = some d ∧
    d.isReady = true ∧ ¬d.Settled w r s

/-- What depends on a stale tag is stale. -/
theorem Stale.of_reaches {a b : TagId} (stale : Stale w r constraints s b)
    (reaches : Reaches constraints a b) : Stale w r constraints s a := by
  obtain ⟨u, d, below, rest⟩ := stale
  exact ⟨u, d, reaches.to_reflTransGen.trans below, rest⟩

/-- The constraint names all stale tags that it depends on, directly or through others, and each of
them after the stale ones that this one depends on. -/
structure NamesStale (w : World) (r : SubjectRecord) (constraints : Dict TagId Constraint)
    (s : Services) (c : Constraint) : Prop where
  all : ∀ tag, Reaches constraints c.tag tag → Stale w r constraints s tag → tag ∈ c.dependsOn
  inOrder : ∀ before tag after, c.dependsOn = before ++ tag :: after →
    ∀ u, Reaches constraints tag u → Stale w r constraints s u → u ∈ before

end Constraint

open Constraint (Needs Reaches Stale)

namespace Pass

variable {w : World} {book : Rulebook} {c : Constraint} {r : SubjectRecord} {s : PassState}

/-- Deciding notes only tags that the constraint depends on, and its own. The induction is on the
depth of the dependencies. -/
theorem mem_visited_decided (filed : Constraint.Filed book.constraints)
    (registered : book.constraints.get? c.tag = some c) (depth : Nat) (check : Bool) {tag : TagId}
    (mem : tag ∈ (decided w book r depth check c s).visited) :
    tag ∈ s.visited ∨ Relation.ReflTransGen (Needs book.constraints) c.tag tag := by
  induction depth using Nat.strongRecOn generalizing check c s with
  | ind depth ih =>
    have kept := tested_untouched w c r s
    have step := decision w book r depth check c s
    generalize decided w book r depth check c s = t at mem step
    cases step with
    | skip => exact .inl mem
    | leave =>
      have same : (removed book c r.id (tested w c r s)).visited = s.visited := by
        unfold removed
        split <;> exact kept.visited
      exact .inl (same ▸ mem)
    | stay => exact .inl (kept.visited ▸ mem)
    | join =>
      have same : (added w book c r.id (tested w c r s)).visited = s.visited := by
        unfold added
        split <;> exact kept.visited
      exact .inl (same ▸ mem)
    | @defer deeper _ _ _ depth_eq =>
      have lt : deeper < depth := by omega
      rcases ih deeper lt registered false mem with mem | below
      · -- What the dependencies noted lies below the constraint, as they do.
        revert mem
        refine List.foldlRecOn _ _ (motive := fun t : PassState => tag ∈ t.visited →
          tag ∈ s.visited ∨ Relation.ReflTransGen (Needs book.constraints) c.tag tag) ?_ ?_
        · intro mem
          rcases List.mem_cons.1 mem with rfl | mem
          · exact .inr .refl
          · exact .inl mem
        · intro t before dep first mem
          obtain ⟨u, edge, found, -⟩ := needs_of_mem_firsts registered first
          obtain rfl : dep.tag = u := filed u dep found
          rcases ih deeper lt found true mem with mem | below
          · exact before mem
          · exact .inr (.head edge below)
      · exact .inr below

end Pass

namespace Registry

variable {w : World} {record : SubjectRecord} {r : Registry} {c d : Constraint}
  {before after : List TagId} {tag : TagId} {s : PassState}

/-- While the dependencies that a constraint names are decided: what was not stale is settled still,
and what was stale and has been named is settled now. -/
structure Refreshed (w : World) (record : SubjectRecord) (r : Registry) (c : Constraint)
    (before : List TagId) (s : PassState) : Prop where
  drift : r.ledger.services.Drift w record r.constraints s.ledger.services
  settled : ∀ tag d, Reaches r.constraints c.tag tag → r.constraints.get? tag = some d →
    d.isReady = true → (Stale w record r.constraints r.ledger.services tag → tag ∈ before) →
      d.Settled w record s.ledger.services
  own : s.ledger.services.store.isTagged c.tag record.id = r.store.isTagged c.tag record.id
  visited : ∀ tag ∈ s.visited, tag = c.tag ∨
    (Stale w record r.constraints r.ledger.services tag → tag ∈ before)
  progress : ∃ changes, Progress w.now (Change.Prepared w record r.constraints)
    r.ledger.services changes s.ledger.services

namespace Refreshed

/-- A tag that has no constraint, or one that cannot be applied, is passed over. -/
theorem skip (h : r.Refreshed w record c before s)
    (inert : ∀ d, r.constraints.get? tag = some d → d.isReady = false) :
    r.Refreshed w record c (before ++ [tag]) s where
  drift := h.drift
  settled u d reaches found ready named := by
    refine h.settled u d reaches found ready ?_
    intro stale
    rcases List.mem_append.1 (named stale) with mem | same
    · exact mem
    · obtain rfl := List.mem_singleton.1 same
      simp [inert d found] at ready
  own := h.own
  visited u mem := (h.visited u mem).imp_right fun named stale =>
    List.mem_append_left _ (named stale)
  progress := h.progress

/-- A dependency that is settled is decided, and nothing changes. -/
theorem idle (h : r.Refreshed w record c before s) (reaches : Reaches r.constraints c.tag tag)
    (found : r.constraints.get? tag = some d) (ready : d.isReady = true)
    (named : Stale w record r.constraints r.ledger.services tag → tag ∈ before) (depth : Nat) :
    r.Refreshed w record c (before ++ [tag])
      (Pass.decided w r.rulebook record depth true d s) := by
  have kept := Pass.decided_untouched r.rulebook (h.settled tag d reaches found ready named) depth true
  generalize Pass.decided w r.rulebook record depth true d s = t at kept ⊢
  have drift : r.ledger.services.Drift w record r.constraints t.ledger.services := by
    refine h.drift.trans ⟨?_, fun u => ?_, fun u _ => kept.isTagged u record.id⟩
    · rw [kept.view]
      exact ⟨rfl, rfl, rfl⟩
    · exact TagStore.tag?_congr kept.rolls
  refine ⟨drift, ?_, ?_, ?_, ?_⟩
  · intro u e reaches' found' ready' among
    refine (PassState.Idle.of_untouched kept).settled (h.settled u e reaches' found' ready' ?_)
    intro stale
    rcases List.mem_append.1 (among stale) with mem | same
    · exact mem
    · obtain rfl := List.mem_singleton.1 same
      exact named stale
  · exact (kept.isTagged c.tag record.id).trans h.own
  · intro u mem
    rw [kept.visited] at mem
    exact (h.visited u mem).imp_right fun among stale => List.mem_append_left _ (among stale)
  · obtain ⟨changes, progress⟩ := h.progress
    exact ⟨changes, .quiet progress kept.rolls kept.log⟩

/-- The turn of a constraint has come if all constraints that it depends on are settled. Without a
cooldown no addition is too recent. -/
theorem due (h : r.Refreshed w record c before s) (consistent : r.Consistent)
    (cooldown : r.cooldown = 0) (found : r.constraints.get? d.tag = some d)
    (below : ∀ u e, Reaches r.constraints d.tag u → r.constraints.get? u = some e →
      e.isReady = true → e.Settled w record s.ledger.services) :
    d.Due w record r.rulebook (Change.Prepared w record r.constraints) s.ledger := by
  have constrained : r.constraints.contains d.tag = true := by simp [Dict.contains, found]
  refine .of_below ?_ ?_ ?_ below
  · intro t moves
    refine (consistent.truth_eq found h.drift.tags (moves.drift constrained) ?_).symm
    intro u dep
    apply moves.others u
    rintro rfl
    exact consistent.acyclic d.tag (.single ⟨d, found, dep, constrained⟩)
  · rw [h.drift.tags]
    exact consistent.tags d.tag constrained
  · intro _
    unfold Pass.isRecent
    split
    · exact decide_eq_false (by simp [rulebook, cooldown])
    · rfl

/-- A stale dependency is settled in its turn, and what was settled stays so. -/
theorem settle (h : r.Refreshed w record c before s) (consistent : r.Consistent)
    (cooldown : r.cooldown = 0) (running : r.stopping = false)
    (names : c.NamesStale w record r.constraints r.ledger.services)
    (split : c.dependsOn = before ++ tag :: after) (reaches : Reaches r.constraints c.tag tag)
    (found : r.constraints.get? tag = some d)
    (stale : Stale w record r.constraints r.ledger.services tag) (new : tag ∉ before) (depth : Nat) :
    r.Refreshed w record c (before ++ [tag])
      (Pass.decided w r.rulebook record depth true d s) := by
  obtain rfl : d.tag = tag := consistent.filed tag d found
  have due : d.Due w record r.rulebook (Change.Prepared w record r.constraints) s.ledger := by
    refine h.due consistent cooldown found fun u e below found' ready => ?_
    refine h.settled u e (.trans reaches below) found' ready ?_
    exact names.inOrder before d.tag after split u below
  have constrained : r.constraints.contains d.tag = true := by simp [Dict.contains, found]
  have apart : d.tag ≠ c.tag := fun same => consistent.acyclic c.tag (by simpa only [same] using reaches)
  have unvisited : d.tag ∉ s.visited := fun mem =>
    (h.visited d.tag mem).elim apart fun among => new (among stale)
  obtain ⟨turn, settled⟩ := Pass.decided_settles running found due depth true fun _ => unvisited
  have noted (u : TagId) (mem : u ∈ (Pass.decided w r.rulebook record depth true d s).visited) :
      u ∈ s.visited ∨ Relation.ReflTransGen (Needs r.constraints) d.tag u :=
    Pass.mem_visited_decided (by exact consistent.filed) found depth true mem
  generalize Pass.decided w r.rulebook record depth true d s = t at turn settled noted ⊢
  have drift := turn.moves.drift constrained
  refine ⟨h.drift.trans drift, ?_, ?_, ?_, ?_⟩
  · intro u e reaches' found' ready' among
    obtain rfl : e.tag = u := consistent.filed u e found'
    by_cases same : e.tag = d.tag
    · obtain rfl : e = d := Option.some.inj (found'.symm.trans (same ▸ found))
      exact settled
    · have earlier (stale' : Stale w record r.constraints r.ledger.services e.tag) :
          e.tag ∈ before := by
        rcases List.mem_append.1 (among stale') with mem | last
        · exact mem
        · exact absurd (List.mem_singleton.1 last) same
      refine (h.settled e.tag e reaches' found' ready' earlier).congr ?_
        (turn.moves.others _ (Ne.symm same))
      refine (consistent.truth_eq found' h.drift.tags drift fun v dep => ?_).symm
      apply turn.moves.others v
      rintro rfl
      -- A constraint that tests the tag is stale itself, and named after it.
      have edge : Reaches r.constraints e.tag d.tag := .single ⟨e, found', dep, constrained⟩
      obtain ⟨front, back, place⟩ := List.append_of_mem (earlier (stale.of_reaches edge))
      apply new
      rw [place]
      refine List.mem_append_left _ (names.inOrder front e.tag (back ++ d.tag :: after) ?_ _ edge stale)
      rw [split, place, List.append_assoc, List.cons_append]
  · exact (turn.moves.others c.tag apart).trans h.own
  · intro u mem
    rcases noted u mem with mem | below
    · exact (h.visited u mem).imp_right fun among stale => List.mem_append_left _ (among stale)
    · refine .inr fun stale' => ?_
      rcases Relation.reflTransGen_iff_eq_or_transGen.1 below with rfl | below
      · exact List.mem_append_right _ List.mem_cons_self
      · exact List.mem_append_left _ (names.inOrder before d.tag after split u below stale')
  · obtain ⟨changes, progress⟩ := h.progress
    obtain ⟨more, progress'⟩ := turn.progress
    exact ⟨more ++ changes, progress.trans progress'⟩

/-- All dependencies that a constraint names are decided in turn. -/
theorem foldl (consistent : r.Consistent) (cooldown : r.cooldown = 0) (running : r.stopping = false)
    (registered : r.constraints.get? c.tag = some c)
    (names : c.NamesStale w record r.constraints r.ledger.services) (depth : Nat)
    (split : c.dependsOn = before ++ after) (h : r.Refreshed w record c before s) :
    r.Refreshed w record c c.dependsOn
      (((after.filterMap r.constraints.get?).filter (·.isReady)).foldl
        (fun s dep => Pass.decided w r.rulebook record depth true dep s) s) := by
  induction after generalizing before s with
  | nil =>
    rw [List.append_nil] at split
    exact split ▸ h
  | cons tag after ih =>
    have split' : c.dependsOn = (before ++ [tag]) ++ after := by
      rw [split, List.append_assoc, List.singleton_append]
    cases found : r.constraints.get? tag with
    | none =>
      rw [List.filterMap_cons_none found]
      exact ih split' (h.skip fun d at' => by simp [found] at at')
    | some d =>
      rw [List.filterMap_cons_some found]
      cases ready : d.isReady with
      | false =>
        rw [List.filter_cons_of_neg (by simp [ready])]
        refine ih split' (h.skip fun e at' => ?_)
        obtain rfl := Option.some.inj (found.symm.trans at')
        exact ready
      | true =>
        rw [List.filter_cons_of_pos ready, List.foldl_cons]
        have constrained : r.constraints.contains tag = true := by simp [Dict.contains, found]
        have dep : tag ∈ c.dependsOn := split ▸ List.mem_append_right _ List.mem_cons_self
        have reaches : Reaches r.constraints c.tag tag := .single ⟨c, registered, dep, constrained⟩
        refine ih split' ?_
        by_cases named : Stale w record r.constraints r.ledger.services tag → tag ∈ before
        · exact h.idle reaches found ready named depth
        · rw [Classical.not_imp] at named
          exact h.settle consistent cooldown running names split reaches found named.1 named.2 depth

end Refreshed

/-- Three tags. The first may be constrainable, the last has actions. -/
def threeTags (constrainable : Bool) : TagStore :=
  ((({} : TagStore).insertTag { id := ⟨1⟩, name := "E", constrainable }).insertTag
    { id := ⟨2⟩, name := "D" }).insertTag { id := ⟨3⟩, name := "C", hasActions := true }

/-- A rule for the tag with actions. -/
def highest (text : String) : Constraint :=
  (Constraint.build (threeTags true) 2 ⟨3⟩ text "" true).1

section ThreeRules

variable {linked : Bool} {text : String}

end ThreeRules

end Registry

end TagRules
