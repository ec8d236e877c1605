import TagRules.Number.Digits
import TagRules.Number.Double

/-!
# Decimal text of doubles

`Double.shortest` finds the fewest decimal digits that read back to a number, the nearest to it
among those, and the larger of two nearest. `Double.format` is the text of a number in expressions:
the sign `∞` for infinity, an integer where the number is one, else the shortest digits in plain
positional notation, never with an exponent.
-/

namespace TagRules.Double

/-- The exponent `p` with `10 ^ p ≤ n / d < 10 ^ (p + 1)`, searched downwards from a power that is
large enough. -/
def log10From (n d : Nat) : Nat → Int → Int
  | 0, p => p
  | fuel + 1, p =>
    if d * Nat.pow 10 p.toNat ≤ n * Nat.pow 10 (-p).toNat then p else log10From n d fuel (p - 1)

/-- The exponent `p` with `10 ^ p ≤ n / d < 10 ^ (p + 1)`. -/
def log10Ratio (n d : Nat) : Int :=
  log10From n d 3 ((log2Ratio n d + 1) * 30103 / 100000 + 1)

/-- On the grid of multiples of `10 ^ power`, the neighbour of a positive finite number that reads
back to it; of two the nearer, and the upper one if both are equally near. -/
def onGrid? (x : Double) (power : Int) : Option Nat :=
  let n := x.ratio.1 * Nat.pow 10 (-power).toNat
  let d := x.ratio.2 * Nat.pow 10 power.toNat
  let lower := n / d
  let order := if 2 * (n % d) < d then [lower, lower + 1] else [lower + 1, lower]
  order.find? fun digits => ofDecimal false digits power = x

/-- The number of decimal places that are enough for the exact value of any double. -/
def exactPlaces : Nat := 1074

/-- The digits and the power of ten of the shortest decimal that reads back to a positive finite
number. The exact value serves where no seventeen digits do. -/
def shortest (x : Double) : Nat × Int :=
  let top := log10Ratio x.ratio.1 x.ratio.2
  let grids := (List.range 17).map fun k : Nat => top - (k : Int)
  match grids.findSome? fun power => (x.onGrid? power).map (·, power) with
  | some found => found
  | none => (x.ratio.1 * Nat.pow 10 exactPlaces / x.ratio.2, -(exactPlaces : Int))

/-- Positional notation of `digits * 10 ^ power`: no point where the number is whole, and no zero at
the end of the digits after a point. -/
def positional (digits : Nat) (power : Int) : List Char :=
  if 0 ≤ power then Digits.ofNat (digits * Nat.pow 10 power.toNat)
  else
    let places := (-power).toNat
    let text := Digits.padded (places + 1) digits
    let after := ((text.drop (text.length - places)).reverse.dropWhile (· == '0')).reverse
    let before := text.take (text.length - places)
    if after.isEmpty then before else before ++ '.' :: after

/-- The shortest digits of any double in positional notation. -/
def toDecimal (x : Double) : List Char :=
  if x.isNaN then "NaN".toList
  else
    let sign := if x.negative then ['-'] else []
    if x.isInfinite then sign ++ "inf".toList
    else if x.magnitude = 0 then sign ++ ['0']
    else
      let (digits, power) := (x.withSign false).shortest
      sign ++ positional digits power

/-- The text of a number as it stands in an expression. -/
def format (x : Double) : String :=
  if x = infinity then "∞"
  else if x.isIntegral && x.wholePart < Nat.pow 10 15 then
    String.ofList (Digits.ofInt (if x.negative then -(x.wholePart : Int) else x.wholePart))
  else String.ofList x.toDecimal

/-- A decimal numeral without sign: digits, an optional point with digits on at least one side, an
optional exponent. -/
def readDecimal? (s : List Char) : Option Double :=
  let whole := s.takeWhile Digits.isDigit
  let rest := s.dropWhile Digits.isDigit
  let (places, rest) :=
    match rest with
    | '.' :: r => (r.takeWhile Digits.isDigit, r.dropWhile Digits.isDigit)
    | r => ([], r)
  let digits := whole ++ places
  let scaled (exponent : Int) : Option Double :=
    if digits.isEmpty then none
    else some (ofDecimal false (Digits.value digits) (exponent - places.length))
  match rest with
  | [] => scaled 0
  | e :: r =>
    if e = 'e' || e = 'E' then
      match r with
      | '-' :: r => (Digits.read? r).bind fun n => scaled (-(n : Int))
      | '+' :: r => (Digits.read? r).bind fun n => scaled n
      | r => (Digits.read? r).bind fun n => scaled n
    else none

/-- A finite non-negative number with one digit after the point, a half rounded to the even
digit. -/
def toTenths (x : Double) : String :=
  let tenths := roundEven (10 * x.ratio.1) x.ratio.2
  String.ofList (Digits.ofNat (tenths / 10) ++ ['.'] ++ Digits.ofNat (tenths % 10))

end TagRules.Double
