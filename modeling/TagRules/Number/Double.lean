/-!
# Numbers in double precision

A `Double` is the 64 bits of a binary number in double precision. Every operation is defined on the
exact value of its operands, in natural numbers, and rounds once, to the nearest double and to the
even one of two nearest (`Double.ofRatio`). Nothing here depends on the machine's arithmetic, so
the results can be reasoned about.
-/

namespace TagRules

/-- A number in double precision, given by its bits: sign, eleven bits of exponent, fifty-two of
fraction. -/
structure Double where
  bits : UInt64
deriving DecidableEq, Repr, Inhabited

namespace Double

/-- A double from its bits as a natural number; higher bits are dropped. -/
def ofBits (n : Nat) : Double :=
  ⟨UInt64.ofNat n⟩

/-- The sign bit. -/
def negative (x : Double) : Bool :=
  Nat.pow 2 63 ≤ x.bits.toNat

/-- The bits without the sign. -/
def magnitude (x : Double) : Nat :=
  x.bits.toNat % Nat.pow 2 63

/-- The biased exponent. -/
def exponent (x : Double) : Nat :=
  x.magnitude / Nat.pow 2 52

/-- The fraction without the leading bit. -/
def fraction (x : Double) : Nat :=
  x.bits.toNat % Nat.pow 2 52

/-- Positive zero. -/
def zero : Double := ofBits 0

/-- Positive infinity. -/
def infinity : Double := ofBits (2047 * Nat.pow 2 52)

/-- The number that stands for no number. -/
def nan : Double := ofBits (2047 * Nat.pow 2 52 + Nat.pow 2 51)

/-- Neither a number nor infinite. -/
def isNaN (x : Double) : Bool :=
  x.exponent = 2047 && x.fraction ≠ 0

/-- Positive or negative infinity. -/
def isInfinite (x : Double) : Bool :=
  x.exponent = 2047 && x.fraction = 0

/-- A finite number. -/
def isFinite (x : Double) : Bool :=
  x.exponent < 2047

/-- Set the sign. -/
def withSign (negative : Bool) (x : Double) : Double :=
  ofBits (x.magnitude + if negative then Nat.pow 2 63 else 0)

/-- The opposite number. -/
def neg (x : Double) : Double :=
  x.withSign (!x.negative)

/-- The absolute value of a finite number as a quotient of natural numbers. -/
def ratio (x : Double) : Nat × Nat :=
  let mantissa := if x.exponent = 0 then x.fraction else x.fraction + Nat.pow 2 52
  let scale := max x.exponent 1
  (mantissa * Nat.pow 2 (scale - 1075), Nat.pow 2 (1075 - scale))

/-- The nearest natural number to `n / d`, the even one of two nearest. -/
def roundEven (n d : Nat) : Nat :=
  let quotient := n / d
  let rest := 2 * (n % d)
  if rest < d then quotient
  else if d < rest then quotient + 1
  else quotient + quotient % 2

/-- The exponent `e` with `2 ^ e ≤ n / d < 2 ^ (e + 1)`. -/
def log2Ratio (n d : Nat) : Int :=
  let e : Int := (n.log2 : Int) - d.log2
  if d * Nat.pow 2 e.toNat ≤ n * Nat.pow 2 (-e).toNat then e else e - 1

/-- The double nearest to `n / d`, the one with even fraction of two nearest; infinite where `n / d`
is beyond the largest double. The carry of a rounded-up fraction runs into the exponent. -/
def ofRatio (negative : Bool) (n d : Nat) : Double :=
  if n = 0 ∨ d = 0 then zero.withSign negative
  else
    let scale := max (log2Ratio n d - 52) (-1074)
    let mantissa := roundEven (n * Nat.pow 2 (-scale).toNat) (d * Nat.pow 2 scale.toNat)
    let bits := (scale + 1074).toNat * Nat.pow 2 52 + mantissa
    (ofBits (min bits (2047 * Nat.pow 2 52))).withSign negative

/-- The double nearest to a natural number. -/
def ofNat (n : Nat) : Double :=
  ofRatio false n 1

/-- The double nearest to an integer. -/
def ofInt (n : Int) : Double :=
  ofRatio (n < 0) n.natAbs 1

/-- The double nearest to `digits * 10 ^ power`. A power far outside the range of doubles is
decided without computing it. -/
def ofDecimal (negative : Bool) (digits : Nat) (power : Int) : Double :=
  if digits = 0 then zero.withSign negative
  else if 400 < power then infinity.withSign negative
  else if power + (digits.log2 : Int) < -1200 then zero.withSign negative
  else ofRatio negative (digits * Nat.pow 10 power.toNat) (Nat.pow 10 (-power).toNat)

/-- The place of a number that is not NaN in the order of doubles; both zeros have place zero. -/
def place (x : Double) : Int :=
  if x.negative then -(x.magnitude : Int) else x.magnitude

/-- The order of doubles; nothing is less than NaN or more. -/
def lt (x y : Double) : Bool :=
  !x.isNaN && !y.isNaN && x.place < y.place

/-- Numeric equality: zeros are equal and NaN equals nothing. -/
def eq (x y : Double) : Bool :=
  !x.isNaN && !y.isNaN && x.place = y.place

/-- Less or equal. -/
def le (x y : Double) : Bool :=
  !x.isNaN && !y.isNaN && x.place ≤ y.place

/-- The quiet form of a NaN, which keeps its sign and payload. -/
def quiet (x : Double) : Double :=
  if x.magnitude / Nat.pow 2 51 % 2 = 1 then x else ofBits (x.bits.toNat + Nat.pow 2 51)

/-- The product. -/
def mul (x y : Double) : Double :=
  let negative := x.negative != y.negative
  if x.isNaN then x.quiet
  else if y.isNaN then y.quiet
  else if x.isInfinite || y.isInfinite then
    if x.magnitude = 0 || y.magnitude = 0 then nan.withSign true else infinity.withSign negative
  else ofRatio negative (x.ratio.1 * y.ratio.1) (x.ratio.2 * y.ratio.2)

/-- The quotient. -/
def div (x y : Double) : Double :=
  let negative := x.negative != y.negative
  if x.isNaN then x.quiet
  else if y.isNaN then y.quiet
  else if x.isInfinite then if y.isInfinite then nan.withSign true else infinity.withSign negative
  else if y.isInfinite then zero.withSign negative
  else if y.magnitude = 0 then
    if x.magnitude = 0 then nan.withSign true else infinity.withSign negative
  else ofRatio negative (x.ratio.1 * y.ratio.2) (x.ratio.2 * y.ratio.1)

/-- The integer part, towards zero. -/
def trunc (x : Double) : Double :=
  if x.isNaN then x.quiet
  else if x.isInfinite then x
  else ofRatio x.negative (x.ratio.1 / x.ratio.2) 1

/-- A finite number without fraction. -/
def isIntegral (x : Double) : Bool :=
  x.isFinite && x.ratio.1 % x.ratio.2 = 0

/-- The integer part of the absolute value of a finite number. -/
def wholePart (x : Double) : Nat :=
  x.ratio.1 / x.ratio.2

@[simp] theorem roundEven_one (n : Nat) : roundEven n 1 = n := by
  simp [roundEven, Nat.mod_one]

end Double

end TagRules
