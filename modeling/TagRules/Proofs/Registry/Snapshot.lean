import Mathlib.Data.List.Induction
import Mathlib.Logic.Relation
import TagRules.Registry.Basic

/-!
# The order of a snapshot

A snapshot walks through the tags that have constraints (`Registry.Walk`) and lists each constraint when
it leaves the tag. A tag is left after each one that it depends on, unless that one depends on it in
turn (`Registry.snapshot_ordered`): when the walk enters a tag, what was seen and not yet left are the
tags from which it came, and these all depend on the one that is entered (`Registry.Behind`). If no
constraint depends on itself, directly or through others, then each comes after all the ones that it
depends on (`Registry.searched_sorted`).
-/

namespace TagRules

/-- The constraint of one tag tests another tag that has a constraint. -/
def Constraint.Needs (constraints : Dict TagId Constraint) (a b : TagId) : Prop :=
  ∃ c, constraints.get? a = some c ∧ b ∈ c.dependsOn ∧ constraints.contains b = true

/-- One tag depends on another through one or more constraints. -/
def Constraint.Reaches (constraints : Dict TagId Constraint) : TagId → TagId → Prop :=
  Relation.TransGen (Needs constraints)

/-- No constraint depends on itself through one or more constraints. -/
def Constraint.Acyclic (constraints : Dict TagId Constraint) : Prop :=
  ∀ tag, ¬Reaches constraints tag tag

/-- What leads downwards only does not lead back. -/
theorem not_transGen_of_rank {α : Type} {r : α → α → Prop} (rank : α → Nat)
    (lower : ∀ a b, r a b → rank b < rank a) (a : α) : ¬Relation.TransGen r a a := by
  intro cycle
  have : IsTrans Nat (· > ·) := ⟨fun _ _ _ first second => Nat.lt_trans second first⟩
  have below : Relation.TransGen (· > ·) (rank a) (rank a) :=
    Relation.TransGen.lift rank lower _ _ cycle
  rw [Relation.transGen_eq_self] at below
  exact Nat.lt_irrefl _ below

/-- Rules that lead downwards only have no cycles. -/
theorem Constraint.Acyclic.of_rank {constraints : Dict TagId Constraint} (rank : TagId → Nat)
    (lower : ∀ a b, Needs constraints a b → rank b < rank a) : Acyclic constraints :=
  not_transGen_of_rank rank lower

/-- Constraints, newest first, each of which is registered, stands there once and comes after the
registered ones that it depends on. -/
inductive Constraint.Sorted (constraints : Dict TagId Constraint) : List Constraint → Prop
  | nil : Sorted constraints []
  | cons {c ordered} (sorted : Sorted constraints ordered)
    (registered : constraints.get? c.tag = some c) (once : ∀ d ∈ ordered, d.tag ≠ c.tag)
    (after : ∀ tag d, tag ∈ c.dependsOn → constraints.get? tag = some d → d ∈ ordered) :
    Sorted constraints (c :: ordered)

namespace Constraint.Sorted

variable {constraints : Dict TagId Constraint} {c : Constraint} {ordered : List Constraint}

theorem registered (h : Sorted constraints ordered) (mem : c ∈ ordered) :
    constraints.get? c.tag = some c := by
  induction h with
  | nil => cases mem
  | cons _ registered _ _ ih =>
    rcases List.mem_cons.1 mem with rfl | mem
    · exact registered
    · exact ih mem

/-- What a listed constraint depends on is listed. -/
theorem closed (h : Sorted constraints ordered) (mem : c ∈ ordered) {tag : TagId} {d : Constraint}
    (dep : tag ∈ c.dependsOn) (found : constraints.get? tag = some d) : d ∈ ordered := by
  induction h with
  | nil => cases mem
  | cons _ _ _ after ih =>
    rcases List.mem_cons.1 mem with rfl | mem
    · exact List.mem_cons_of_mem _ (after tag d dep found)
    · exact List.mem_cons_of_mem _ (ih mem)

/-- All constraints that the newest one depends on, directly or through others, come before it. -/
theorem mem_of_reaches (h : Sorted constraints (c :: ordered)) {tag : TagId} {d : Constraint}
    (reaches : Reaches constraints c.tag tag) (found : constraints.get? tag = some d) :
    d ∈ ordered := by
  cases h with | cons sorted registered _ after =>
  unfold Reaches at reaches
  induction reaches generalizing d with
  | single edge =>
    obtain ⟨c', found', dep, -⟩ := edge
    obtain rfl : c = c' := Option.some.inj (registered.symm.trans found')
    exact after _ d dep found
  | tail _ edge ih =>
    obtain ⟨e, found', dep, -⟩ := edge
    exact sorted.closed (ih found') dep found

/-- The constraints before the newest one do not depend on it. -/
theorem not_mem_dependsOn (h : Sorted constraints (c :: ordered)) {d : Constraint}
    (mem : d ∈ ordered) : c.tag ∉ d.dependsOn := by
  cases h with | cons sorted registered once _ =>
  intro dep
  exact once c (sorted.closed mem dep registered) rfl

/-- The newest constraint does not depend on itself. -/
theorem self_not_mem_dependsOn (h : Sorted constraints (c :: ordered)) : c.tag ∉ c.dependsOn := by
  cases h with | cons _ registered once after =>
  intro dep
  exact once c (after c.tag c dep registered) rfl

end Constraint.Sorted

theorem pair_sublist_append {l m : List α} {a b : α} (first : a ∈ l) (second : b ∈ m) :
    [a, b].Sublist (l ++ m) :=
  (List.singleton_sublist.2 first).append (List.singleton_sublist.2 second)

/-- Where the later one of two stands at the end of a list, the earlier one stands before it; where it
does not, both stand before the end. -/
theorem sublist_of_pair_sublist_append {l : List α} {a b c : α} (both : [a, b].Sublist (l ++ [c])) :
    a ∈ l ∧ (b ≠ c → [a, b].Sublist l) := by
  obtain ⟨front, back, same, front_le, back_le⟩ := List.sublist_append_iff.1 both
  match front, same with
  | [], same =>
    have short := back_le.length_le
    rw [← List.nil_append back, ← same] at short
    simp at short
  | [_], same =>
    simp only [List.cons_append, List.nil_append, List.cons.injEq] at same
    obtain ⟨rfl, rfl⟩ := same
    refine ⟨List.singleton_sublist.1 front_le, fun other => absurd ?_ other⟩
    exact List.mem_singleton.1 (List.singleton_sublist.1 back_le)
  | x :: y :: rest, same =>
    simp only [List.cons_append, List.cons.injEq] at same
    obtain ⟨rfl, rfl, none⟩ := same
    obtain ⟨rfl, -⟩ := List.append_eq_nil_iff.1 none.symm
    exact ⟨front_le.subset List.mem_cons_self, fun _ => front_le⟩

namespace Registry

variable {constraints : Dict TagId Constraint}

/-- A walk visits tags in turn. It enters a tag that has a constraint and was not seen, walks through
what the constraint depends on, and then leaves the tag. The tags are those seen before, those to
visit, those that the walk leaves, in order, and those seen in the end. There is no bound on the depth:
a walk is there if and only if visiting comes to an end. -/
inductive Walk (constraints : Dict TagId Constraint) :
    List TagId → List TagId → List TagId → List TagId → Prop
  | nil (seen) : Walk constraints seen [] [] seen
  | absent {seen tag tags left seen'} (none : constraints.get? tag = none)
    (rest : Walk constraints seen tags left seen') : Walk constraints seen (tag :: tags) left seen'
  | again {seen tag tags left seen'} (old : tag ∈ seen)
    (rest : Walk constraints seen tags left seen') : Walk constraints seen (tag :: tags) left seen'
  | enter {seen tag tags c inner seen' later seen''} (found : constraints.get? tag = some c)
    (fresh : tag ∉ seen) (deps : Walk constraints (tag :: seen) c.dependsOn inner seen')
    (rest : Walk constraints seen' tags later seen'') :
    Walk constraints seen (tag :: tags) (inner ++ tag :: later) seen''

/-- A tag is done, or it depends on all tags to visit: it is one of those from which a walk came. -/
def Behind (constraints : Dict TagId Constraint) (done tags : List TagId) (t : TagId) : Prop :=
  t ∈ done ∨ ∀ tag ∈ tags, constraints.contains tag = true → Constraint.Reaches constraints t tag

namespace Behind

variable {done tags : List TagId} {t tag : TagId} {c : Constraint}

theorem tail (h : Behind constraints done (tag :: tags) t) : Behind constraints done tags t :=
  h.imp_right fun all next mem => all next (List.mem_cons_of_mem _ mem)

/-- Where a walk came from, it comes from for the dependencies of the next tag. -/
theorem enter (h : Behind constraints done (tag :: tags) t) (found : constraints.get? tag = some c) :
    Behind constraints done c.dependsOn t :=
  h.imp_right fun all dep mem target =>
    (all tag List.mem_cons_self (by simp [Dict.contains, found])).tail ⟨c, found, mem, target⟩

theorem entered (found : constraints.get? tag = some c) : Behind constraints done c.dependsOn tag :=
  .inr fun _ mem target => .single ⟨c, found, mem, target⟩

end Behind

namespace Walk

variable {seen tags left left' seen' seen'' : List TagId} {tag : TagId}

/-- A walk sees the tags that it leaves. -/
theorem mem_seen (h : Walk constraints seen tags left seen') :
    tag ∈ seen' ↔ tag ∈ seen ∨ tag ∈ left := by
  induction h with
  | nil => simp
  | absent _ _ ih => exact ih
  | again _ _ ih => exact ih
  | enter _ _ _ _ inner later =>
    simp only [inner, later, List.mem_append, List.mem_cons]
    grind

/-- A walk leaves only tags that were not seen and have a constraint. -/
theorem fresh_of_mem (h : Walk constraints seen tags left seen') (mem : tag ∈ left) :
    tag ∉ seen ∧ constraints.contains tag = true := by
  induction h with
  | nil => cases mem
  | absent _ _ ih => exact ih mem
  | again _ _ ih => exact ih mem
  | enter found fresh deps _ inner later =>
    rcases List.mem_append.1 mem with mem | mem
    · exact ⟨fun old => (inner mem).1 (List.mem_cons_of_mem _ old), (inner mem).2⟩
    · rcases List.mem_cons.1 mem with rfl | mem
      · exact ⟨fresh, by simp [Dict.contains, found]⟩
      · exact ⟨fun old => (later mem).1 (deps.mem_seen.2 (.inl (List.mem_cons_of_mem _ old))),
          (later mem).2⟩

/-- A walk leaves no tag twice. -/
theorem nodup (h : Walk constraints seen tags left seen') : left.Nodup := by
  induction h with
  | nil => exact .nil
  | absent _ _ ih => exact ih
  | again _ _ ih => exact ih
  | @enter seen tag _ _ inner seen' later _ _ _ deps rest innerOnce laterOnce =>
    have apart (t : TagId) (before : t ∈ tag :: seen ∨ t ∈ inner) : t ∉ later :=
      fun mem => (rest.fresh_of_mem mem).1 (deps.mem_seen.2 before)
    have unentered : tag ∉ inner := fun mem => (deps.fresh_of_mem mem).1 List.mem_cons_self
    refine List.nodup_append.2 ⟨innerOnce, List.nodup_cons.2 ⟨apart tag (.inl List.mem_cons_self),
      laterOnce⟩, ?_⟩
    rintro t mem _ mem' rfl
    rcases List.mem_cons.1 mem' with rfl | mem'
    · exact unentered mem
    · exact apart t (.inr mem) mem'

/-- A walk sees the tags that it visits, where they have constraints. -/
theorem covers (h : Walk constraints seen tags left seen') (mem : tag ∈ tags)
    (registered : constraints.contains tag = true) : tag ∈ seen' := by
  induction h with
  | nil => cases mem
  | absent none _ ih =>
    rcases List.mem_cons.1 mem with rfl | mem
    · simp [Dict.contains, none] at registered
    · exact ih mem
  | again old rest ih =>
    rcases List.mem_cons.1 mem with rfl | mem
    · exact rest.mem_seen.2 (.inl old)
    · exact ih mem
  | enter _ _ deps rest _ later =>
    rcases List.mem_cons.1 mem with rfl | mem
    · exact rest.mem_seen.2 (.inl (deps.mem_seen.2 (.inl List.mem_cons_self)))
    · exact later mem

/-- There is one walk at most. -/
theorem unique (h : Walk constraints seen tags left seen') (h' : Walk constraints seen tags left' seen'') :
    left' = left ∧ seen'' = seen' := by
  induction h generalizing left' seen'' with
  | nil =>
    cases h'
    exact ⟨rfl, rfl⟩
  | absent none _ ih =>
    cases h' with
    | absent _ rest' => exact ih rest'
    | again _ rest' => exact ih rest'
    | enter found => cases none.symm.trans found
  | again old _ ih =>
    cases h' with
    | absent _ rest' => exact ih rest'
    | again _ rest' => exact ih rest'
    | enter _ fresh => exact absurd old fresh
  | enter found fresh _ _ inner later =>
    cases h' with
    | absent none => cases none.symm.trans found
    | again old => exact absurd old fresh
    | enter found' _ deps' rest' =>
      cases found.symm.trans found'
      obtain ⟨rfl, rfl⟩ := inner deps'
      obtain ⟨rfl, rfl⟩ := later rest'
      exact ⟨rfl, rfl⟩

/-- A walk leaves a tag after the tags that it depends on, unless these depend on it in turn. The
induction is on the walk; a tag is done once the walk has left it, and the other tags that were seen
are those from which the walk came. -/
theorem sorted (h : Walk constraints seen tags left seen') {done : List TagId}
    (behind : ∀ t ∈ seen, Behind constraints done tags t) {a b : TagId} (mem : a ∈ left)
    (needs : Constraint.Needs constraints a b) (forth : ¬Constraint.Reaches constraints b a) :
    b ∈ done ∨ [b, a].Sublist left := by
  induction h generalizing done with
  | nil => cases mem
  | absent _ _ ih => exact ih (fun t old => (behind t old).tail) mem
  | again _ _ ih => exact ih (fun t old => (behind t old).tail) mem
  | @enter seen tag tags c inner seen' later _ found _ deps _ innerSorted laterSorted =>
    rcases List.mem_append.1 mem with inside | outside
    -- within the dependencies, the tag itself is one of those from which the walk came
    · have behindInner : ∀ t ∈ tag :: seen, Behind constraints done c.dependsOn t :=
        List.forall_mem_cons.2 ⟨.entered found, fun t old => (behind t old).enter found⟩
      exact (innerSorted behindInner inside).imp_right
        (·.trans (List.sublist_append_left inner (tag :: later)))
    rcases List.mem_cons.1 outside with rfl | after
    -- what the tag depends on was seen: it was left just now, is done, or leads back to the tag
    · obtain ⟨c', found', dep, target⟩ := needs
      cases found.symm.trans found'
      rcases deps.mem_seen.1 (deps.covers dep target) with old | inside
      · rcases List.mem_cons.1 old with rfl | old
        · exact absurd (.single ⟨c, found, dep, target⟩) forth
        · exact (behind b old).imp_right fun all =>
            absurd (all a List.mem_cons_self (by simp [Dict.contains, found])) forth
      · exact .inr (pair_sublist_append inside List.mem_cons_self)
    -- behind the tag, it is done, and so is what was left below it
    · have behindLater (t : TagId) (old : t ∈ seen') :
          Behind constraints (inner ++ tag :: done) tags t := by
        rcases deps.mem_seen.1 old with old | inside
        · rcases List.mem_cons.1 old with rfl | old
          · exact .inl (by simp)
          · exact (behind t old).tail.imp_left fun mem => by simp [mem]
        · exact .inl (List.mem_append_left _ inside)
      rcases laterSorted behindLater after with old | both
      · rcases List.mem_append.1 old with inside | old
        · exact .inr (pair_sublist_append inside (List.mem_cons_of_mem _ after))
        · rcases List.mem_cons.1 old with rfl | old
          · have pair : [b, a].Sublist (b :: later) := (List.singleton_sublist.2 after).cons_cons b
            exact .inr (pair.trans (List.sublist_append_right inner _))
          · exact .inl old
      · exact .inr ((both.trans (List.sublist_cons_self tag later)).trans
          (List.sublist_append_right inner _))

/-- In a walk to which nothing was seen before, a tag comes after the ones that it depends on, unless
these depend on it in turn. -/
theorem after (h : Walk constraints [] tags left seen') {a b : TagId} (mem : a ∈ left)
    (needs : Constraint.Needs constraints a b) (forth : ¬Constraint.Reaches constraints b a) :
    [b, a].Sublist left := by
  have placed : b ∈ ([] : List TagId) ∨ [b, a].Sublist left :=
    h.sorted (fun _ old => absurd old List.not_mem_nil) mem needs forth
  exact placed.resolve_left List.not_mem_nil

end Walk

/-- The number of tags that were not seen. -/
def unseen (tags seen : List TagId) : Nat :=
  (tags.filter (!seen.contains ·)).length

theorem unseen_cons_lt {tags seen : List TagId} {tag : TagId} (fresh : tag ∉ seen)
    (mem : tag ∈ tags) : unseen tags (tag :: seen) < unseen tags seen := by
  have counted : tag ∈ tags.filter (!seen.contains ·) := by simp [mem, fresh]
  have fewer : tags.filter (!(tag :: seen).contains ·) =
      (tags.filter (!seen.contains ·)).filter (· ≠ tag) := by
    rw [List.filter_filter]
    refine List.filter_congr fun t _ => ?_
    simp
  unfold unseen
  rw [fewer]
  exact List.length_filter_lt_length_iff_exists.2 ⟨tag, counted, by simp⟩

theorem unseen_le_of_subset (tags : List TagId) {seen seen' : List TagId} (more : seen ⊆ seen') :
    unseen tags seen' ≤ unseen tags seen := by
  unfold unseen
  rw [← List.countP_eq_length_filter, ← List.countP_eq_length_filter]
  refine List.countP_mono_left fun t _ new => ?_
  simp only [Bool.not_eq_true', List.contains_eq_mem, decide_eq_false_iff_not] at new ⊢
  exact fun old => new (more old)

theorem unseen_le_length (tags seen : List TagId) : unseen tags seen ≤ tags.length :=
  List.length_filter_le _ tags

/-- Visiting tags walks through them, if the depth allowed exceeds the number of tags that were not
seen. The constraints of the tags that are left come to the list. -/
theorem foldl_visit (fuel : Nat) (tags seen : List TagId) (ordered : List Constraint)
    (enough : unseen constraints.keys seen ≤ fuel) :
    ∃ left seen', Walk constraints seen tags left seen' ∧
      tags.foldl (visit constraints (fuel + 1)) (seen, ordered) =
        (seen', (left.filterMap constraints.get?).reverse ++ ordered) := by
  induction fuel using Nat.strongRecOn generalizing tags seen ordered with
  | ind fuel deeper =>
    induction tags generalizing seen ordered with
    | nil => exact ⟨[], seen, .nil seen, rfl⟩
    | cons tag tags next =>
      rw [List.foldl_cons]
      cases found : constraints.get? tag with
      | none =>
        have stays : visit constraints (fuel + 1) (seen, ordered) tag = (seen, ordered) := by
          simp only [visit, found]
        obtain ⟨left, seen', walk, same⟩ := next seen ordered enough
        exact ⟨left, seen', .absent found walk, by rw [stays, same]⟩
      | some c =>
        by_cases old : tag ∈ seen
        · have stays : visit constraints (fuel + 1) (seen, ordered) tag = (seen, ordered) := by
            simp only [visit, found, List.contains_iff_mem.2 old, if_true]
          obtain ⟨left, seen', walk, same⟩ := next seen ordered enough
          exact ⟨left, seen', .again old walk, by rw [stays, same]⟩
        · have registered : constraints.contains tag = true := by simp [Dict.contains, found]
          have fewer := unseen_cons_lt old (Dict.mem_keys.2 registered)
          -- the tag counts as unseen, so there is depth left, and one level less is enough within it
          obtain ⟨less, rfl⟩ : ∃ less, fuel = less + 1 := ⟨fuel - 1, by omega⟩
          obtain ⟨inner, seen', deps, first⟩ :=
            deeper less (by omega) c.dependsOn (tag :: seen) ordered (by omega)
          have enters : visit constraints (less + 1 + 1) (seen, ordered) tag =
              (seen', c :: ((inner.filterMap constraints.get?).reverse ++ ordered)) := by
            rw [visit, found]
            simp only [List.contains_eq_mem, old, decide_false, Bool.false_eq_true, if_false, first]
          have subset : seen ⊆ seen' := fun t mem =>
            deps.mem_seen.2 (.inl (List.mem_cons_of_mem _ mem))
          obtain ⟨later, seen'', walk, rest⟩ := next seen'
            (c :: ((inner.filterMap constraints.get?).reverse ++ ordered))
            (Nat.le_trans (unseen_le_of_subset _ subset) enough)
          refine ⟨inner ++ tag :: later, seen'', .enter found old deps walk, ?_⟩
          rw [enters, rest]
          simp [found]

/-- The constraints of a snapshot, newest first. -/
def searched (r : Registry) : List Constraint :=
  (r.constraints.keys.foldl (visit r.constraints (r.constraints.size + 1)) ([], [])).2

/-- A snapshot walks through all tags that have constraints, whatever depth is allowed beyond their
number. -/
theorem exists_walk (r : Registry) : ∃ order seen, Walk r.constraints [] r.constraints.keys order seen ∧
    ∀ fuel, r.constraints.size < fuel →
      r.constraints.keys.foldl (visit r.constraints fuel) ([], []) =
        (seen, (order.filterMap r.constraints.get?).reverse) := by
  have enough (more : Nat) : unseen r.constraints.keys [] ≤ r.constraints.size + more := by
    have := unseen_le_length r.constraints.keys []
    rw [Dict.length_keys] at this
    exact Nat.le_trans this (Nat.le_add_right ..)
  have visited (more : Nat) := foldl_visit (r.constraints.size + more) r.constraints.keys [] []
    (enough more)
  obtain ⟨order, seen, walk, -⟩ := visited 0
  refine ⟨order, seen, walk, fun fuel enough => ?_⟩
  obtain ⟨more, rfl⟩ : ∃ more, fuel = r.constraints.size + more + 1 :=
    ⟨fuel - r.constraints.size - 1, by omega⟩
  obtain ⟨order', seen', walk', same⟩ := visited more
  obtain ⟨rfl, rfl⟩ := walk.unique walk'
  rw [same, List.append_nil]

theorem Walk.perm_keys {r : Registry} {order seen : List TagId}
    (walk : Walk r.constraints [] r.constraints.keys order seen) : order.Perm r.constraints.keys := by
  refine (List.perm_ext_iff_of_nodup walk.nodup r.constraints.keys_nodup).2 fun tag => ⟨fun mem => ?_,
    fun mem => ?_⟩
  · exact Dict.mem_keys.2 (walk.fresh_of_mem mem).2
  · exact (walk.mem_seen.1 (walk.covers mem (Dict.mem_keys.1 mem))).resolve_left List.not_mem_nil

/-- The constraints of a snapshot are those of the tags in the order in which they are left. -/
theorem exists_order (r : Registry) : ∃ order seen, Walk r.constraints [] r.constraints.keys order seen ∧
    r.searched = (order.filterMap r.constraints.get?).reverse := by
  obtain ⟨order, seen, walk, visited⟩ := r.exists_walk
  exact ⟨order, seen, walk, congrArg Prod.snd (visited _ (Nat.lt_succ_self _))⟩

/-- A snapshot lists registered constraints only. -/
theorem registered_of_mem_snapshot {r : Registry} {c : Constraint} (h : c ∈ r.snapshot) :
    ∃ tag, r.constraints.get? tag = some c := by
  obtain ⟨order, seen, walk, searched⟩ := r.exists_order
  change c ∈ r.searched.reverse at h
  rw [searched, List.reverse_reverse] at h
  obtain ⟨tag, -, found⟩ := List.mem_filterMap.1 h
  exact ⟨tag, found⟩

/-- A snapshot lists all constraints. -/
theorem mem_snapshot {r : Registry} {tag : TagId} {c : Constraint}
    (found : r.constraints.get? tag = some c) : c ∈ r.snapshot := by
  obtain ⟨order, seen, walk, searched⟩ := r.exists_order
  change c ∈ r.searched.reverse
  rw [searched, List.reverse_reverse]
  have registered : tag ∈ r.constraints.keys := Dict.mem_keys.2 (by simp [Dict.contains, found])
  exact List.mem_filterMap.2 ⟨tag, walk.perm_keys.mem_iff.2 registered, found⟩

/-- Tags in an order in which each comes after the ones that it depends on have sorted constraints. -/
theorem sorted_of_order (filed : ∀ tag c, constraints.get? tag = some c → c.tag = tag)
    {order : List TagId} (once : order.Nodup)
    (after : ∀ a ∈ order, ∀ b, Constraint.Needs constraints a b → [b, a].Sublist order) :
    Constraint.Sorted constraints (order.filterMap constraints.get?).reverse := by
  induction order using List.reverseRecOn with
  | nil => exact .nil
  | append_singleton init tag ih =>
    obtain ⟨once, -, apart⟩ := List.nodup_append.1 once
    have sorted := ih once fun a mem b needs =>
      (sublist_of_pair_sublist_append (after a (List.mem_append_left _ mem) b needs)).2
        (apart a mem tag (List.mem_singleton_self tag))
    rw [List.filterMap_append, List.reverse_append]
    cases found : constraints.get? tag with
    | none => simpa [found] using sorted
    | some c =>
      have own := filed tag c found
      simp only [List.filterMap_cons, found, List.filterMap_nil, List.reverse_singleton,
        List.singleton_append]
      refine .cons sorted (by rwa [own]) (fun d mem same => ?_) fun dep d mem found' => ?_
      · obtain ⟨t, mem, foundT⟩ := List.mem_filterMap.1 (List.mem_reverse.1 mem)
        refine apart t mem tag (List.mem_singleton_self tag) ?_
        rw [← filed t d foundT, same, own]
      · have needs : Constraint.Needs constraints tag dep :=
          ⟨c, found, mem, by simp [Dict.contains, found']⟩
        have before := (sublist_of_pair_sublist_append
          (after tag (List.mem_append_right _ (List.mem_singleton_self tag)) dep needs)).1
        exact List.mem_reverse.2 (List.mem_filterMap.2 ⟨dep, before, found'⟩)

/-- Without cyclic references, a snapshot is in order and lists all constraints. -/
theorem searched_sorted (r : Registry)
    (filed : ∀ tag c, r.constraints.get? tag = some c → c.tag = tag)
    (acyclic : Constraint.Acyclic r.constraints) :
    Constraint.Sorted r.constraints r.searched ∧
      ∀ tag c, r.constraints.get? tag = some c → c ∈ r.searched := by
  obtain ⟨order, seen, walk, searched⟩ := r.exists_order
  refine ⟨?_, fun tag c found => List.mem_reverse.1 (mem_snapshot found)⟩
  rw [searched]
  exact sorted_of_order filed walk.nodup fun a mem b needs =>
    walk.after mem needs fun back => acyclic a (.head needs back)

theorem map_some_filterMap {f : α → Option β} {l : List α} (all : ∀ a ∈ l, (f a).isSome = true) :
    (l.filterMap f).map some = l.map f := by
  induction l with
  | nil => rfl
  | cons a l ih =>
    obtain ⟨head, tail⟩ := List.forall_mem_cons.1 all
    obtain ⟨b, is⟩ := Option.isSome_iff_exists.1 head
    rw [List.filterMap_cons_some is, List.map_cons, List.map_cons, ih tail, is]

/-- Whatever the constraints depend on, a snapshot comes to an end, and no bound on the depth beyond the
number of constraints decides what it is. It lists the constraint of each registered tag once, in an
order of the tags in which a tag comes after each one that it depends on, unless that one depends on it
in turn, directly or through others. -/
theorem snapshot_ordered (r : Registry) : ∃ order seen : List TagId,
    Walk r.constraints [] r.constraints.keys order seen ∧
    (∀ fuel, r.constraints.size < fuel →
      r.constraints.keys.foldl (visit r.constraints fuel) ([], []) = (seen, r.snapshot.reverse)) ∧
    r.snapshot.map some = order.map r.constraints.get? ∧ order.Perm r.constraints.keys ∧
    ∀ a b, Constraint.Needs r.constraints a b → ¬Constraint.Reaches r.constraints b a →
      [b, a].Sublist order := by
  obtain ⟨order, seen, walk, visited⟩ := r.exists_walk
  have listed : r.snapshot = order.filterMap r.constraints.get? := by
    have same := congrArg Prod.snd (visited _ (Nat.lt_succ_self _))
    exact List.reverse_eq_iff.2 same
  refine ⟨order, seen, walk, ?_, ?_, walk.perm_keys, fun a b needs forth => ?_⟩
  · simpa only [listed] using visited
  · rw [listed]
    exact map_some_filterMap fun tag mem => (walk.fresh_of_mem mem).2
  · have ⟨c, found, _⟩ := needs
    have mem : a ∈ order :=
      walk.perm_keys.mem_iff.2 (Dict.mem_keys.2 (by simp [Dict.contains, found]))
    exact walk.after mem needs forth

/-- The tags 1 and 2 depend on each other, 3 on 1, 2 on 4 and 4 on itself and on a tag without
constraint. -/
example :
    let needing (tag : Nat) (deps : List Nat) : TagId × Constraint :=
      (⟨tag⟩, { tag := ⟨tag⟩, serial := tag, text := "", optionsText := "", enabled := true,
                compiled := .ok ⟨.literal (.bool true), .static, false, deps.map (⟨·⟩), [], []⟩,
                mustCheck := false })
    let constraints : Dict TagId Constraint :=
      Dict.ofList [needing 1 [2], needing 2 [1, 4], needing 3 [1], needing 4 [4, 9]]
    (Registry.snapshot { constraints }).map (·.tag) = [⟨4⟩, ⟨2⟩, ⟨1⟩, ⟨3⟩] := by
  decide

end Registry

end TagRules
