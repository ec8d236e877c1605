import TagRules.Number.Digits
import TagRules.Time.Calendar

/-!
# Dates and times in documents

A document may hold a date, a time of day, or a date with a time and perhaps an offset from
universal time. Seconds may be left out. Writing has one form, with `T` between the date and the
time and no needless zeros at the end of a fraction.
-/

namespace TagRules.Toml

/-- A time of day. -/
structure TimeOfDay where
  hour : Nat
  minute : Nat
  second : Option Nat := none
  /-- A fraction of a second in nanoseconds. -/
  nano : Option Nat := none
deriving DecidableEq, Repr

/-- The difference between a clock and universal time. -/
inductive Offset where
  | universal
  | minutes (n : Int)
deriving DecidableEq, Repr

/-- A date, a time or both. -/
structure Moment where
  date : Option Date := none
  time : Option TimeOfDay := none
  offset : Option Offset := none
deriving DecidableEq, Repr

namespace Moment

/-- A sign in front of a text. -/
def sign? (c : Char) : List Char → Option (List Char)
  | d :: s => if d = c then some s else none
  | [] => none

/-- A date that exists. -/
def date? (s : List Char) : Option (Date × List Char) := do
  let (year, s) ← Digits.take? 4 s
  let (month, s) ← Digits.take? 2 (← sign? '-' s)
  let (day, s) ← Digits.take? 2 (← sign? '-' s)
  let date : Date := ⟨year, month, day⟩
  if date.valid then some (date, s) else none

/-- A fraction of a second, if there is one. -/
def nano? (s : List Char) : Option (Option Nat × List Char) :=
  match s with
  | '.' :: s =>
    let digits := s.takeWhile Digits.isDigit
    if digits.isEmpty then none
    else some (some (Digits.fraction 9 digits), s.drop digits.length)
  | s => some (none, s)

/-- Seconds, if there are any. The sixtieth is a leap second. -/
def second? (s : List Char) : Option ((Option Nat × Option Nat) × List Char) :=
  match s with
  | ':' :: s => do
    let (second, s) ← Digits.take? 2 s
    let (nano, s) ← nano? s
    if second ≤ 60 then some ((some second, nano), s) else none
  | s => some ((none, none), s)

/-- A time of day. -/
def time? (s : List Char) : Option (TimeOfDay × List Char) := do
  let (hour, s) ← Digits.take? 2 s
  let (minute, s) ← Digits.take? 2 (← sign? ':' s)
  let ((second, nano), s) ← second? s
  if hour ≤ 23 ∧ minute ≤ 59 then some (⟨hour, minute, second, nano⟩, s) else none

/-- An offset that ends a text, or none. -/
def offset? (s : List Char) : Option (Option Offset) :=
  let signed (sign : Int) (s : List Char) : Option (Option Offset) := do
    let (hours, s) ← Digits.take? 2 s
    let (minutes, s) ← Digits.take? 2 (← sign? ':' s)
    if hours ≤ 23 ∧ minutes ≤ 59 ∧ s.isEmpty then
      some (some (.minutes (sign * (60 * hours + minutes))))
    else none
  match s with
  | [] => some none
  | ['Z'] => some (some .universal)
  | ['z'] => some (some .universal)
  | '+' :: s => signed 1 s
  | '-' :: s => signed (-1) s
  | _ => none

/-- Read a date, a time or both. -/
def read? (s : List Char) : Option Moment :=
  match date? s with
  | some (date, []) => some { date := some date }
  | some (date, c :: s) => do
    if c = 'T' ∨ c = 't' ∨ c = ' ' then
      let (time, s) ← time? s
      let offset ← offset? s
      return { date := some date, time := some time, offset }
    else none
  | none => do
    let (time, s) ← time? s
    if s.isEmpty then some { time := some time } else none

/-- A date as text. -/
def dateText (d : Date) : List Char :=
  Digits.padded 4 d.year.natAbs ++ '-' :: Digits.padded 2 d.month ++ '-' :: Digits.padded 2 d.day

/-- A fraction without zeros at its end, but for the first digit. -/
def nanoText (n : Nat) : List Char :=
  let digits := ((Digits.padded 9 n).reverse.dropWhile (· = '0')).reverse
  '.' :: if digits.isEmpty then ['0'] else digits

/-- A time as text. -/
def timeText (t : TimeOfDay) : List Char :=
  Digits.padded 2 t.hour ++ ':' :: Digits.padded 2 t.minute ++
    (t.second.map fun n => ':' :: Digits.padded 2 n).getD [] ++ (t.nano.map nanoText).getD []

/-- An offset as text. -/
def offsetText : Offset → List Char
  | .universal => ['Z']
  | .minutes n =>
    (if n < 0 then '-' else '+') :: Digits.padded 2 (n.natAbs / 60) ++
      ':' :: Digits.padded 2 (n.natAbs % 60)

/-- Write a date, a time or both. -/
def write (m : Moment) : String :=
  String.ofList <|
    (m.date.map dateText).getD [] ++
      (if m.date.isSome && m.time.isSome then ['T'] else []) ++
      (m.time.map timeText).getD [] ++ (m.offset.map offsetText).getD []

end Moment

end TagRules.Toml
