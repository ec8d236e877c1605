import TagRules.Number.Digits
import TagRules.Text.Blank
import TagRules.Time.Instant

/-!
# Instants as RFC 3339 text

Reading is liberal: blanks may stand before a number, a hyphen or a colon, the date and the time are
separated by `T`, `t` or a space, a fraction keeps nine digits, and the offset is `Z`, `UTC` or a
sign with hours and minutes. The date has to lie in a range of years both as it is written and in
universal time. Writing has one form, in universal time with `Z`, and three, six or nine digits of
fraction where there is one.
-/

namespace TagRules.Rfc3339

open Text

/-- A number of at most `width` digits after blanks. -/
def number (width : Nat) (s : List Char) : Option (Nat × List Char) :=
  let s := trimStart s
  let digits := (s.takeWhile Digits.isDigit).take width
  if digits.isEmpty then none else some (Digits.value digits, s.drop digits.length)

/-- A number within bounds. -/
def bounded (width lo hi : Nat) (s : List Char) : Option (Nat × List Char) := do
  let (n, s) ← number width s
  if lo ≤ n ∧ n ≤ hi then some (n, s) else none

/-- A separator after blanks. -/
def separator (c : Char) (s : List Char) : Option (List Char) :=
  match trimStart s with
  | d :: s => if d = c then some s else none
  | [] => none

/-- A year: four digits at most, or a sign and any number of digits. -/
def year (s : List Char) : Option (Int × List Char) := do
  let signed (sign : Int) (s : List Char) : Option (Int × List Char) := do
    if (s.head?.map Digits.isDigit).getD false then
      let (n, rest) ← number s.length s
      some (sign * n, rest)
    else none
  match trimStart s with
  | '-' :: s => signed (-1) s
  | '+' :: s => signed 1 s
  | s => (number 4 s).map fun (n, s) => ((n : Int), s)

/-- The first and the last year of the dates that can be read. -/
def years : Int × Int := (-262143, 262142)

/-- The date is in one of the years that can be read. -/
def inRange (d : Date) : Bool :=
  years.1 ≤ d.year && d.year ≤ years.2

/-- A date. -/
def date (s : List Char) : Option (Date × List Char) := do
  let (y, s) ← year s
  let s ← separator '-' s
  let (m, s) ← bounded 2 1 12 s
  let s ← separator '-' s
  let (d, s) ← bounded 2 1 31 s
  let date : Date := ⟨y, m, d⟩
  if date.valid && inRange date then some (date, s) else none

/-- A fraction of a second in nanoseconds; digits after the ninth are dropped. -/
def fraction (s : List Char) : Option (Nat × List Char) :=
  match s with
  | '.' :: s =>
    let digits := s.takeWhile Digits.isDigit
    if digits.isEmpty then none
    else some (Digits.fraction 9 digits, s.drop digits.length)
  | s => some (0, s)

/-- A time of day in seconds, with its fraction. The sixtieth second is a leap second. -/
def timeOfDay (s : List Char) : Option ((Nat × Nat) × List Char) := do
  let (hour, s) ← bounded 2 0 23 s
  let s ← separator ':' s
  let (minute, s) ← bounded 2 0 59 s
  let s ← separator ':' s
  let (second, s) ← bounded 2 0 60 s
  let (nano, s) ← fraction s
  let base := 3600 * hour + 60 * minute
  if second = 60 then some ((base + 59, nano + Instant.nanosPerSecond), s)
  else some ((base + second, nano), s)

/-- An offset from universal time in seconds. -/
def offset (s : List Char) : Option (Int × List Char) := do
  let s := trimStart s
  if eqIgnoringCase (s.take 3) ['u', 't', 'c'] then return (0, s.drop 3)
  let signed (sign : Int) (s : List Char) : Option (Int × List Char) := do
    let (hours, s) ← Digits.take? 2 s
    let (minutes, s) ← Digits.take? 2 (s.dropWhile fun c => c = ':' || isBlank c)
    if minutes ≤ 59 ∧ hours ≤ 23 then some (sign * (3600 * hours + 60 * minutes), s) else none
  match s with
  | c :: s =>
    if c = 'Z' || c = 'z' then some (0, s)
    else if c = '+' then signed 1 s
    else if c = '-' || c = '\u2212' then signed (-1) s
    else none
  | [] => none

/-- Read an instant. -/
def read? (text : List Char) : Option Instant := do
  let (date, s) ← date text
  let s ← match s with
    | c :: s => if c = 'T' || c = 't' || c = ' ' then some s else none
    | [] => none
  let ((second, nano), s) ← timeOfDay s
  let (offset, s) ← offset s
  let instant : Instant := ⟨date.dayNumber * 86400 + second - offset, nano⟩
  if blank s && inRange (.ofDayNumber instant.day) then some instant else none

/-- The year in four digits, with a sign outside of the years 0 to 9999. -/
def yearText (year : Int) : List Char :=
  if 0 ≤ year ∧ year ≤ 9999 then Digits.padded 4 year.natAbs
  else (if year < 0 then '-' else '+') :: Digits.padded 4 year.natAbs

/-- The digits of a fraction: none, three, six or nine. -/
def fractionText (nano : Nat) : List Char :=
  if nano = 0 then []
  else if nano % 1000000 = 0 then '.' :: Digits.padded 3 (nano / 1000000)
  else if nano % 1000 = 0 then '.' :: Digits.padded 6 (nano / 1000)
  else '.' :: Digits.padded 9 nano

/-- Write an instant in universal time. -/
def write (t : Instant) : String :=
  let date := Date.ofDayNumber t.day
  let leap := t.inLeapSecond
  let second := t.secondOfDay % 60 + if leap then 1 else 0
  let nano := if leap then t.nano - Instant.nanosPerSecond else t.nano
  String.ofList <|
    yearText date.year ++ ['-'] ++ Digits.padded 2 date.month ++ ['-'] ++
      Digits.padded 2 date.day ++ ['T'] ++ Digits.padded 2 t.hourOfDay ++ [':'] ++
      Digits.padded 2 t.minuteOfHour ++ [':'] ++ Digits.padded 2 second ++ fractionText nano ++
      ['Z']

end TagRules.Rfc3339
