import TagRules.Number.Decimal

/-!
# Numbers in documents

Integers of 64 bits in four bases, and numbers with a point or an exponent. Single underscores may
stand between digits.
-/

namespace TagRules.Toml

/-- The value of a hexadecimal digit. -/
def hexValue? (c : Char) : Option Nat :=
  if '0' ≤ c && c ≤ '9' then some (c.toNat - '0'.toNat)
  else if 'a' ≤ c && c ≤ 'f' then some (c.toNat - 'a'.toNat + 10)
  else if 'A' ≤ c && c ≤ 'F' then some (c.toNat - 'A'.toNat + 10)
  else none

/-- The number that digits of a base stand for. -/
def valueIn? (base : Nat) (digits : List Char) : Option Nat := do
  let values ← digits.mapM hexValue?
  if values.all (· < base) then some (values.foldl (fun n d => base * n + d) 0) else none

/-- Digits with single underscores between them, without the underscores. -/
def digits? (isDigit : Char → Bool) (s : List Char) : Option (List Char) :=
  let plain := s.filter (· ≠ '_')
  if plain.isEmpty || !plain.all isDigit || s.head? = some '_' || s.getLast? = some '_' then none
  else if (s.zip (s.drop 1)).any fun (a, b) => a = '_' && b = '_' then none
  else some plain

/-- Decimal digits without needless zeros in front. -/
def whole? (s : List Char) : Option (List Char) := do
  let plain ← digits? Digits.isDigit s
  if plain.head? = some '0' ∧ plain.length ≠ 1 then none else some plain

/-- An integer of 64 bits. -/
def integer? (s : List Char) : Option Int :=
  let inRange (n : Int) : Option Int :=
    if -(Nat.pow 2 63 : Int) ≤ n ∧ n < (Nat.pow 2 63 : Int) then some n else none
  let based (base : Nat) (s : List Char) : Option Int := do
    let plain ← digits? (fun c => (hexValue? c).isSome) s
    inRange (← valueIn? base plain)
  let decimal (sign : Int) (s : List Char) : Option Int := do
    inRange (sign * Digits.value (← whole? s))
  match s with
  | '0' :: 'x' :: s => based 16 s
  | '0' :: 'o' :: s => based 8 s
  | '0' :: 'b' :: s => based 2 s
  | '-' :: s => decimal (-1) s
  | '+' :: s => decimal 1 s
  | s => decimal 1 s

/-- A digit, or an underscore between digits. -/
def isNumeral (c : Char) : Bool :=
  Digits.isDigit c || c = '_'

/-- The places after a point, with the point. -/
def places? (s : List Char) : Option (List Char × List Char) :=
  match s with
  | '.' :: s =>
    let places := s.takeWhile isNumeral
    (digits? Digits.isDigit places).map fun digits => ('.' :: digits, s.drop places.length)
  | s => some ([], s)

/-- An exponent that ends a number, in one form. -/
def exponent? (s : List Char) : Option (List Char) :=
  match s with
  | [] => some []
  | e :: s =>
    if e ≠ 'e' ∧ e ≠ 'E' then none
    else
      match s with
      | '-' :: s => (digits? Digits.isDigit s).map fun digits => 'e' :: '-' :: digits
      | '+' :: s => (digits? Digits.isDigit s).map fun digits => 'e' :: digits
      | s => (digits? Digits.isDigit s).map fun digits => 'e' :: digits

/-- A finite number with a point or an exponent, or infinity, or no number. -/
def float? (s : List Char) : Option Double :=
  let (negative, s) :=
    match s with
    | '-' :: s => (true, s)
    | '+' :: s => (false, s)
    | s => (false, s)
  if s = "inf".toList then some (Double.infinity.withSign negative)
  else if s = "nan".toList then some (Double.nan.withSign negative)
  else do
    let whole := s.takeWhile isNumeral
    let (places, rest) ← places? (s.drop whole.length)
    let whole ← whole? whole
    let exponent ← exponent? rest
    if places.isEmpty && exponent.isEmpty then none
    let x ← Double.readDecimal? (whole ++ places ++ exponent)
    if x.isInfinite then none else some (x.withSign negative)

end TagRules.Toml
