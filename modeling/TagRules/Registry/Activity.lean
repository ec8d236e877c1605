import TagRules.Number.Decimal

/-!
# Activity of a constraint

How often a constraint was evaluated, as an average over a sliding window. Events are counted in
buckets of one second, oldest bucket first; a bucket that has left the window is dropped.
-/

namespace TagRules

/-- The events of one second. -/
structure Bucket where
  second : Nat
  count : Nat
deriving DecidableEq, Repr

/-- The events of the last seconds. -/
structure Activity where
  /-- The length of the window in seconds, at least one. -/
  window : Nat
  /-- When counting began, in nanoseconds of the steady clock. -/
  origin : Nat
  buckets : List Bucket := []
deriving DecidableEq, Repr

namespace Activity

/-- Begin to count. A window of less than a second counts as one second. -/
def begin (seconds ticks : Nat) : Activity :=
  { window := max seconds 1, origin := ticks }

/-- Whole seconds since counting began. -/
def second (a : Activity) (ticks : Nat) : Nat :=
  (ticks - a.origin) / 1000000000

/-- Drop the buckets that have left the window. -/
def prune (a : Activity) (second : Nat) : Activity :=
  { a with buckets := a.buckets.dropWhile fun b => a.window ≤ second - b.second }

/-- Count an event in the last bucket, if it is of the current second, or in a new one. -/
def bump (second : Nat) : List Bucket → List Bucket
  | [] => [⟨second, 1⟩]
  | [b] => if b.second = second then [⟨second, b.count + 1⟩] else [b, ⟨second, 1⟩]
  | b :: bs => b :: bump second bs

/-- Count an event. -/
def record (a : Activity) (ticks : Nat) : Activity :=
  let second := a.second ticks
  { a with buckets := bump second a.buckets }.prune second

/-- The number of events in the buckets. -/
def total (a : Activity) : Nat :=
  a.buckets.foldr (fun b n => b.count + n) 0

/-- Events per second over the window. -/
def average (a : Activity) (ticks : Nat) : Double × Activity :=
  let a := a.prune (a.second ticks)
  ((Double.ofNat a.total).div (.ofNat a.window), a)

/-- The average as text. -/
def rate (a : Activity) (ticks : Nat) : String :=
  (a.average ticks).1.toTenths ++ "/sec"

@[simp] theorem total_nil (w o : Nat) : total ⟨w, o, []⟩ = 0 := rfl

/-- Counting an event adds one to what the buckets hold together. -/
theorem total_bump (w o second : Nat) (bs : List Bucket) :
    total ⟨w, o, bump second bs⟩ = total ⟨w, o, bs⟩ + 1 := by
  simp only [total]
  fun_induction bump second bs with
  | case1 => rfl
  | case2 b h => simp
  | case3 b h => simp
  | case4 b bs _ ih => simp [ih, Nat.add_assoc]

end Activity

end TagRules
