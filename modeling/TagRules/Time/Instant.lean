import TagRules.Time.Calendar

/-!
# Instants

An instant counts seconds since the beginning of 1970 in universal time, with a fraction in
nanoseconds. A fraction of a full second or more stands for a leap second, which shares its second
with the one before it. Differences between instants are exact and are truncated to whole seconds
towards zero.
-/

namespace TagRules

/-- A point in time. -/
structure Instant where
  second : Int
  nano : Nat
deriving DecidableEq, Repr, Inhabited

namespace Instant

/-- The number of nanoseconds in a second. -/
def nanosPerSecond : Nat := 1000000000

/-- Midnight, 1 January 1970. -/
def epoch : Instant := ⟨0, 0⟩

/-- The second within its day. -/
def secondOfDay (t : Instant) : Nat :=
  (t.second % 86400).toNat

/-- The number of the day. -/
def day (t : Instant) : Int :=
  t.second / 86400

/-- The instant is within a leap second. -/
def inLeapSecond (t : Instant) : Bool :=
  nanosPerSecond ≤ t.nano

/-- Earlier than. -/
def before (s t : Instant) : Bool :=
  s.second < t.second || (s.second = t.second && s.nano < t.nano)

/-- Nanoseconds from `s` to `t`. A leap second that lies between them, by the time of day,
counts. -/
def nanosFrom (t s : Instant) : Int :=
  let leap : Int :=
    if s.secondOfDay < t.secondOfDay ∧ s.inLeapSecond then 1
    else if t.secondOfDay < s.secondOfDay ∧ t.inLeapSecond then -1
    else 0
  (t.second - s.second + leap) * nanosPerSecond + ((t.nano : Int) - s.nano)

/-- Whole seconds from `s` to `t`, towards zero. -/
def secondsFrom (t s : Instant) : Int :=
  (t.nanosFrom s).tdiv nanosPerSecond

/-- The reading of a clock that is ahead of universal time by some minutes. -/
def shifted (t : Instant) (minutes : Int) : Instant :=
  ⟨t.second + 60 * minutes, t.nano⟩

/-- The minute within its hour. -/
def minuteOfHour (t : Instant) : Nat :=
  t.secondOfDay / 60 % 60

/-- The hour within its day. -/
def hourOfDay (t : Instant) : Nat :=
  t.secondOfDay / 3600

/-- The day of the week from 1 for Sunday to 7 for Saturday; 1 January 1970 was a Thursday. -/
def dayOfWeek (t : Instant) : Nat :=
  ((t.day + 4) % 7).toNat + 1

@[simp] theorem nanosFrom_self (t : Instant) : t.nanosFrom t = 0 := by
  simp [nanosFrom]

@[simp] theorem secondsFrom_self (t : Instant) : t.secondsFrom t = 0 := by
  simp [secondsFrom]

end Instant

end TagRules
