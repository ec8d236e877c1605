import Mathlib.Data.List.Induction
import TagRules.Registry.Activity

/-!
# The window of an average

An average divides what its buckets hold by the length of the window, and buckets are dropped at the
front only. The buckets of a counter come by increasing seconds, so those at the front are the oldest, and
from every second on that some later window can begin with they hold just the events that were recorded
(`Activity.Tallies`). So the average is over the events of the window, no more and no fewer
(`Activity.average_exact`), if the clock never goes back.
-/

namespace TagRules

namespace Activity

/-- What is asked of a counter, with the reading of the clock. -/
inductive Call where
  | record (ticks : Nat)
  | average (ticks : Nat)
deriving DecidableEq, Repr

/-- When a call is made. -/
def Call.ticks : Call → Nat
  | record ticks => ticks
  | average ticks => ticks

/-- Answer a call. -/
def perform (a : Activity) : Call → Activity
  | .record ticks => a.record ticks
  | .average ticks => (a.average ticks).2

/-- Answer some calls, one after the other. -/
def after (a : Activity) (calls : List Call) : Activity :=
  calls.foldl perform a

/-- The call records an event of the window that ends with the second of `now`. -/
def Call.isWithin (a : Activity) (now : Nat) : Call → Bool
  | record ticks => a.second now - a.second ticks < a.window
  | average _ => false

/-- The call records an event of a second that is `first` or later. -/
def Call.isFrom (a : Activity) (first : Nat) : Call → Bool
  | record ticks => first ≤ a.second ticks
  | average _ => false

/-- The events that some buckets hold from a second on. -/
def heldFrom (first : Nat) : List Bucket → Nat
  | [] => 0
  | b :: bs => (if first ≤ b.second then b.count else 0) + heldFrom first bs

variable {start a : Activity} {calls : List Call} {c : Call} {first second last ticks now : Nat}
  {bs : List Bucket} {b : Bucket}

/-! ### Buckets -/

theorem heldFrom_bump (first second : Nat) (bs : List Bucket) :
    heldFrom first (bump second bs) = heldFrom first bs + if first ≤ second then 1 else 0 := by
  fun_induction bump second bs with
  | case1 => simp [heldFrom]
  | case2 b same =>
    subst same
    simp only [heldFrom]
    split <;> rfl
  | case3 b other => simp [heldFrom]
  | case4 b bs _ ih => simp only [heldFrom, ih, Nat.add_assoc]

/-- What is dropped from the front does not count from a later second on. -/
theorem heldFrom_dropWhile {p : Bucket → Bool} (old : ∀ b, p b = true → b.second < first)
    (bs : List Bucket) : heldFrom first (bs.dropWhile p) = heldFrom first bs := by
  induction bs with
  | nil => rfl
  | cons b bs ih =>
    cases drop : p b with
    | false => rw [List.dropWhile_cons_of_neg (by simp [drop])]
    | true =>
      have early : ¬first ≤ b.second := Nat.not_le_of_lt (old b drop)
      rw [List.dropWhile_cons_of_pos drop, ih, heldFrom, if_neg early, Nat.zero_add]

/-- Buckets that are all late enough hold their events from that second on. -/
theorem total_eq_heldFrom (late : ∀ b ∈ a.buckets, first ≤ b.second) :
    a.total = heldFrom first a.buckets := by
  unfold total
  generalize a.buckets = bs at late ⊢
  induction bs with
  | nil => rfl
  | cons b bs ih =>
    rw [List.foldr_cons, ih fun b mem => late b (List.mem_cons_of_mem _ mem), heldFrom,
      if_pos (late b List.mem_cons_self)]

/-- Counting an event touches no second but its own. -/
theorem second_of_mem_bump (mem : b ∈ bump second bs) :
    b.second = second ∨ ∃ b' ∈ bs, b'.second = b.second := by
  fun_induction bump second bs with
  | case1 => exact .inl (by rw [List.mem_singleton.1 mem])
  | case2 d same => exact .inl (by rw [List.mem_singleton.1 mem])
  | case3 d other =>
    rcases List.mem_cons.1 mem with rfl | mem
    · exact .inr ⟨b, List.mem_cons_self, rfl⟩
    · exact .inl (by rw [List.mem_singleton.1 mem])
  | case4 d bs _ ih =>
    rcases List.mem_cons.1 mem with rfl | mem
    · exact .inr ⟨b, List.mem_cons_self, rfl⟩
    · refine (ih mem).imp_right ?_
      rintro ⟨b', among, same⟩
      exact ⟨b', List.mem_cons_of_mem _ among, same⟩

/-- Buckets of the past stay in order when an event is counted now. -/
theorem increasing_bump (increasing : bs.Pairwise fun b c => b.second < c.second)
    (past : ∀ b ∈ bs, b.second ≤ second) :
    (bump second bs).Pairwise fun b c => b.second < c.second := by
  fun_induction bump second bs with
  | case1 => exact List.pairwise_singleton ..
  | case2 b same => exact List.pairwise_singleton ..
  | case3 b other =>
    have before : b.second < second :=
      Nat.lt_of_le_of_ne (past b List.mem_cons_self) other
    exact List.pairwise_pair.2 before
  | case4 b bs some ih =>
    obtain ⟨oldest, rest⟩ := List.pairwise_cons.1 increasing
    have past' (d : Bucket) (mem : d ∈ bs) : d.second ≤ second :=
      past d (List.mem_cons_of_mem _ mem)
    refine List.pairwise_cons.2 ⟨fun d mem => ?_, ih rest past'⟩
    rcases second_of_mem_bump mem with same | ⟨d', among, same⟩
    · -- There is a bucket between the first one and the present.
      obtain ⟨next, _, rfl⟩ := List.exists_cons_of_ne_nil some
      have := oldest next List.mem_cons_self
      have := past' next List.mem_cons_self
      omega
    · exact same ▸ oldest d' among

/-- Of buckets in order, dropping the old ones at the front drops all old ones. -/
theorem not_old_of_mem_dropWhile {p : Bucket → Bool}
    (increasing : bs.Pairwise fun b c => b.second < c.second)
    (older : ∀ b c : Bucket, b.second < c.second → p c = true → p b = true)
    (mem : b ∈ bs.dropWhile p) : p b = false := by
  induction bs with
  | nil => cases mem
  | cons d bs ih =>
    obtain ⟨oldest, rest⟩ := List.pairwise_cons.1 increasing
    cases drop : p d with
    | true =>
      rw [List.dropWhile_cons_of_pos drop] at mem
      exact ih rest mem
    | false =>
      rw [List.dropWhile_cons_of_neg (by simp [drop])] at mem
      rcases List.mem_cons.1 mem with rfl | mem
      · exact drop
      · refine Bool.eq_false_iff.2 fun old => ?_
        rw [older d b (oldest b mem) old] at drop
        cases drop

/-! ### Calls -/

/-- After some calls, of which the last was in the second `last` or before, a counter holds the recorded
events from each second on that a window can still begin with. -/
structure Tallies (start a : Activity) (calls : List Call) (last : Nat) : Prop where
  origin : a.origin = start.origin
  window : a.window = start.window
  increasing : a.buckets.Pairwise fun b c => b.second < c.second
  past : ∀ b ∈ a.buckets, b.second ≤ last
  tally : ∀ first, last < first + start.window →
    heldFrom first a.buckets = calls.countP (·.isFrom start first)

namespace Tallies

theorem second_eq (h : Tallies start a calls last) (ticks : Nat) :
    a.second ticks = start.second ticks := by
  simp only [Activity.second, h.origin]

/-- Time goes by. -/
theorem wait (h : Tallies start a calls last) (later : last ≤ now) : Tallies start a calls now where
  origin := h.origin
  window := h.window
  increasing := h.increasing
  past b mem := Nat.le_trans (h.past b mem) later
  tally first within := h.tally first (Nat.lt_of_le_of_lt later within)

theorem prune (h : Tallies start a calls last) (some : 0 < start.window) :
    Tallies start (a.prune last) calls last where
  origin := h.origin
  window := h.window
  increasing := h.increasing.sublist (List.dropWhile_sublist _)
  past b mem := h.past b ((List.dropWhile_sublist _).subset mem)
  tally first within := by
    have old (b : Bucket) (drop : decide (a.window ≤ last - b.second) = true) :
        b.second < first := by
      have := of_decide_eq_true drop
      have := h.window
      omega
    exact (heldFrom_dropWhile old a.buckets).trans (h.tally first within)

theorem bump (h : Tallies start a calls (start.second ticks)) :
    Tallies start { a with buckets := Activity.bump (start.second ticks) a.buckets }
      (calls ++ [.record ticks]) (start.second ticks) where
  origin := h.origin
  window := h.window
  increasing := increasing_bump h.increasing h.past
  past b mem := by
    rcases second_of_mem_bump mem with same | ⟨b', among, same⟩
    · exact Nat.le_of_eq same
    · exact same ▸ h.past b' among
  tally first within := by
    rw [heldFrom_bump, h.tally first within, List.countP_append, List.countP_singleton]
    simp only [Call.isFrom, decide_eq_true_eq]

/-- A question counts nothing. -/
theorem asked (h : Tallies start a calls last) (ticks : Nat) :
    Tallies start a (calls ++ [.average ticks]) last where
  origin := h.origin
  window := h.window
  increasing := h.increasing
  past := h.past
  tally first within := by
    rw [h.tally first within, List.countP_append, List.countP_singleton]
    rfl

/-- One call. -/
theorem perform (h : Tallies start a calls (start.second c.ticks)) (some : 0 < start.window) :
    Tallies start (a.perform c) (calls ++ [c]) (start.second c.ticks) := by
  cases c with
  | record ticks =>
    simp only [Activity.perform, record, h.second_eq]
    exact h.bump.prune some
  | average ticks =>
    simp only [Activity.perform, average, h.second_eq]
    exact (h.prune some).asked ticks

/-- Once pruned, a counter holds the events of the window that ends now. -/
theorem total_prune (h : Tallies start a calls last) (some : 0 < start.window) :
    (a.prune last).total = calls.countP (·.isFrom start (last + 1 - start.window)) := by
  rw [← (h.prune some).tally _ (by omega)]
  refine total_eq_heldFrom fun b mem => ?_
  have older (b d : Bucket) (before : b.second < d.second)
      (old : decide (a.window ≤ last - d.second) = true) :
      decide (a.window ≤ last - b.second) = true := by
    have := of_decide_eq_true old
    exact decide_eq_true (by omega)
  have recent := of_decide_eq_false (not_old_of_mem_dropWhile h.increasing older mem)
  have := h.window
  omega

end Tallies

theorem second_mono (a : Activity) (le : ticks ≤ now) : a.second ticks ≤ a.second now :=
  Nat.div_le_div_right (Nat.sub_le_sub_right le _)

/-- Some calls. The induction is on the last of them, so that the invariant is known for its second and
is carried on to any later one. -/
theorem Tallies.after (fresh : start.buckets = []) (some : 0 < start.window) (calls : List Call)
    (ordered : (calls.map Call.ticks).Pairwise (· ≤ ·)) (now : Nat)
    (late : ∀ c ∈ calls, c.ticks ≤ now) :
    Tallies start (start.after calls) calls (start.second now) := by
  induction calls using List.reverseRecOn generalizing now with
  | nil =>
    exact ⟨rfl, rfl, by simp [Activity.after, fresh], by simp [Activity.after, fresh],
      fun _ _ => by simp [Activity.after, fresh, heldFrom]⟩
  | append_singleton calls c ih =>
    rw [List.map_append, List.map_singleton, List.pairwise_append] at ordered
    obtain ⟨before, -, last⟩ := ordered
    have earlier (d : Call) (mem : d ∈ calls) : d.ticks ≤ c.ticks :=
      last _ (List.mem_map_of_mem mem) _ List.mem_cons_self
    have reached : c.ticks ≤ now := late c (List.mem_append_right _ List.mem_cons_self)
    rw [Activity.after, List.foldl_append]
    exact ((ih before c.ticks earlier).perform some).wait (start.second_mono reached)

/-- A window that ends with a second begins as many seconds before as it is long. -/
theorem isWithin_eq (some : 0 < start.window) (now : Nat) (c : Call) :
    c.isWithin start now = c.isFrom start (start.second now + 1 - start.window) := by
  cases c with
  | average => rfl
  | record ticks => exact decide_eq_decide.2 (by omega)

/-- An average divides the number of the events that were recorded less than the window before the current
second, whatever was asked before, and the buckets come by strictly increasing seconds. -/
theorem average_exact (seconds origin : Nat) (calls : List Call) (now : Nat)
    (ordered : (calls.map Call.ticks ++ [now]).Pairwise (· ≤ ·)) :
    let start := begin seconds origin
    let events := calls.countP (·.isWithin start now)
    ((start.after calls).average now).1 = (Double.ofNat events).div (.ofNat start.window) ∧
      ((start.after calls).average now).2.total = events ∧
      (start.after calls).buckets.Pairwise fun b c => b.second < c.second := by
  intro start events
  have some : 0 < start.window := Nat.le_max_right seconds 1
  obtain ⟨before, -, last⟩ := List.pairwise_append.1 ordered
  have late (c : Call) (mem : c ∈ calls) : c.ticks ≤ now :=
    last _ (List.mem_map_of_mem mem) _ List.mem_cons_self
  have tallies : Tallies start (start.after calls) calls (start.second now) :=
    .after rfl some calls before now late
  have total : ((start.after calls).average now).2.total = events := by
    simp only [average, tallies.second_eq]
    exact (tallies.total_prune some).trans (List.countP_congr fun c _ => by rw [isWithin_eq some])
  refine ⟨?_, total, tallies.increasing⟩
  rw [← total, ← tallies.window]
  rfl

/-- Five events and a question, with readings of the clock in nanoseconds. -/
def ticking : List Call :=
  [.record 700000000, .record 1200000000, .average 1500000000, .record 2100000000,
    .record 2900000000, .record 3000000000]

theorem ticking_exact :
    (ticking.map Call.ticks ++ [3999999999]).Pairwise (· ≤ ·) ∧
      (((begin 2 0).after ticking).average 3999999999).1 = (Double.ofNat 3).div (.ofNat 2) ∧
      ((begin 2 0).after ticking).buckets = [⟨2, 2⟩, ⟨3, 1⟩] := by
  have ordered : (ticking.map Call.ticks ++ [3999999999]).Pairwise (· ≤ ·) := by decide
  exact ⟨ordered, (average_exact 2 0 ticking 3999999999 ordered).1, by decide⟩

end Activity

end TagRules
