import TagRules.Json.Basic
import TagRules.Number.Digits

/-!
# Reading JSON text

The strict grammar: no comments, no trailing commas, no text after the document. A number with a
point or an exponent is read as its leading digits, as many as fit into 64 bits, which are then
multiplied or divided by a power of ten, each step rounded.
-/

namespace TagRules.Json

/-- Drop blanks; these are fewer than the blanks of running text. -/
def skip (s : List Char) : List Char :=
  s.dropWhile fun c => c = ' ' || c = '\t' || c = '\n' || c = '\r'

/-- The value of a hexadecimal digit in either case. -/
def hexValue? (c : Char) : Option Nat :=
  if '0' ≤ c && c ≤ '9' then some (c.toNat - '0'.toNat)
  else if 'a' ≤ c && c ≤ 'f' then some (c.toNat - 'a'.toNat + 10)
  else if 'A' ≤ c && c ≤ 'F' then some (c.toNat - 'A'.toNat + 10)
  else none

/-- Four hexadecimal digits. -/
def hex4? : List Char → Option (Nat × List Char)
  | a :: b :: c :: d :: s => do
    let digits ← [a, b, c, d].mapM hexValue?
    return (digits.foldl (fun n d => 16 * n + d) 0, s)
  | _ => none

/-- One unit of a string: a character, or half of a surrogate pair that has no partner. -/
inductive Unit16 where
  | char (c : Char)
  | surrogate

/-- The escape after a backslash. -/
def escape? : List Char → Option (Unit16 × List Char)
  | 'u' :: s => do
    let (n, s) ← hex4? s
    if n < 0xD800 ∨ 0xE000 ≤ n then return (.char (Char.ofNat n), s)
    if 0xDC00 ≤ n then return (.surrogate, s)
    match s with
    | '\\' :: 'u' :: t =>
      let (m, t) ← hex4? t
      if 0xDC00 ≤ m ∧ m < 0xE000 then
        return (.char (Char.ofNat (0x10000 + (n - 0xD800) * 0x400 + (m - 0xDC00))), t)
      else return (.surrogate, s)
    | _ => return (.surrogate, s)
  | c :: s =>
    match c with
    | '"' => some (.char '"', s)
    | '\\' => some (.char '\\', s)
    | '/' => some (.char '/', s)
    | 'b' => some (.char '\x08', s)
    | 'f' => some (.char '\x0c', s)
    | 'n' => some (.char '\n', s)
    | 'r' => some (.char '\r', s)
    | 't' => some (.char '\t', s)
    | _ => none
  | [] => none

/-- The rest of a string after its opening quote, with what was read so far in reverse. -/
def stringFrom : Nat → List Char → Bool → List Char → Option (Option String × List Char)
  | 0, _, _, _ => none
  | fuel + 1, done, sound, s =>
    match s with
    | [] => none
    | '"' :: s => some (if sound then some (String.ofList done.reverse) else none, s)
    | '\\' :: s => do
      match ← escape? s with
      | (.char c, s) => stringFrom fuel (c :: done) sound s
      | (.surrogate, s) => stringFrom fuel done false s
    | c :: s => if c.toNat < 0x20 then none else stringFrom fuel (c :: done) sound s

/-- A string after its opening quote. -/
def string? (s : List Char) : Option (Option String × List Char) :=
  stringFrom (s.length + 1) [] true s

/-- Leading digits that fit into 64 bits, and how many digits follow. -/
def leading (n : Nat) : List Char → Nat × Nat
  | [] => (n, 0)
  | c :: s =>
    let m := 10 * n + Digits.digit c
    if m < Nat.pow 2 64 then leading m s else (n, s.length + 1)

/-- `significand * 10 ^ power` with a rounding for the significand and one for each power of ten. A
result that is too large is absent. -/
def scaled (negative : Bool) (significand : Nat) (power : Int) : Numeral :=
  let x := Double.ofNat significand
  let ten (n : Nat) := Double.ofNat (Nat.pow 10 n)
  let result : Option Double :=
    if 0 ≤ power then
      if 308 < power then if significand = 0 then some x else none
      else
        let y := x.mul (ten power.toNat)
        if y.isInfinite then none else some y
    else
      let rec shrink : Nat → Double → Nat → Double
        | 0, x, _ => x
        | fuel + 1, x, power =>
          if power ≤ 308 then x.div (ten power)
          else if x.magnitude = 0 then x
          else shrink fuel (x.div (ten 308)) (power - 308)
      some (shrink 4 x (-power).toNat)
  match result with
  | some y => .real (y.withSign negative)
  | none => .outOfRange

/-- The digits of an exponent with its sign. -/
def exponent? (s : List Char) : Option (Bool × List Char × List Char) :=
  let (negative, s) :=
    match s with
    | '+' :: s => (false, s)
    | '-' :: s => (true, s)
    | s => (false, s)
  let digits := s.takeWhile Digits.isDigit
  if digits.isEmpty then none else some (negative, digits, s.dropWhile Digits.isDigit)

/-- A number; a leading zero stands alone. -/
def number? (s : List Char) : Option (Numeral × List Char) := do
  let (negative, s) :=
    match s with
    | '-' :: s => (true, s)
    | s => (false, s)
  let whole := s.takeWhile Digits.isDigit
  let s := s.dropWhile Digits.isDigit
  if whole.isEmpty then none
  if whole.head? = some '0' ∧ whole.length ≠ 1 then none
  let (significand, dropped) := leading 0 whole
  let (places, s, point) ← match s with
    | '.' :: s =>
      let places := s.takeWhile Digits.isDigit
      if places.isEmpty then none else some (places, s.dropWhile Digits.isDigit, true)
    | s => some ([], s, false)
  let (significand, unread) :=
    if dropped = 0 then leading significand places
    else if places.isEmpty then (significand, 0)
    else
      let (m, rest) := leading significand places
      (m, rest)
  let power : Int := dropped - ((places.length - unread : Nat) : Int)
  match s with
  | c :: r =>
    if c = 'e' || c = 'E' then
      let (below, digits, r) ← exponent? r
      let n := Digits.value digits
      if Nat.pow 2 31 ≤ n then
        if significand ≠ 0 ∧ ¬ below then some (.outOfRange, r)
        else some (.real (Double.zero.withSign negative), r)
      else
        some (scaled negative significand (if below then power - n else power + n), r)
    else if point ∨ dropped ≠ 0 then some (scaled negative significand power, s)
    else some (integer negative significand, s)
  | [] =>
    if point ∨ dropped ≠ 0 then some (scaled negative significand power, s)
    else some (integer negative significand, s)
where
  /-- An integer; minus zero and integers below 64 bits are numbers in double precision. -/
  integer (negative : Bool) (n : Nat) : Numeral :=
    if ¬ negative then .whole n
    else if n = 0 ∨ Nat.pow 2 63 < n then .real ((Double.ofNat n).withSign true)
    else .whole (-(n : Int))

mutual

/-- A document and the text after it. -/
def value? : Nat → List Char → Option (Json × List Char)
  | 0, _ => none
  | fuel + 1, s =>
    match skip s with
    | 'n' :: 'u' :: 'l' :: 'l' :: s => some (.null, s)
    | 't' :: 'r' :: 'u' :: 'e' :: s => some (.bool true, s)
    | 'f' :: 'a' :: 'l' :: 's' :: 'e' :: s => some (.bool false, s)
    | '"' :: s => (string? s).map fun (text, s) => (.string text, s)
    | '[' :: s =>
      match skip s with
      | ']' :: s => some (.array [], s)
      | s => (items? fuel s).map fun (items, s) => (.array items, s)
    | '{' :: s =>
      match skip s with
      | '}' :: s => some (.object [], s)
      | s => (pairs? fuel s).map fun (members, s) => (.object members, s)
    | s => (number? s).map fun (n, s) => (.number n, s)

/-- The items of an array up to its closing bracket. -/
def items? : Nat → List Char → Option (List Json × List Char)
  | 0, _ => none
  | fuel + 1, s => do
    let (item, s) ← value? fuel s
    match skip s with
    | ',' :: s =>
      let (items, s) ← items? fuel s
      return (item :: items, s)
    | ']' :: s => return ([item], s)
    | _ => none

/-- The members of an object up to its closing brace. -/
def pairs? : Nat → List Char → Option (List (Option String × Json) × List Char)
  | 0, _ => none
  | fuel + 1, s => do
    match skip s with
    | '"' :: s =>
      let (name, s) ← string? s
      match skip s with
      | ':' :: s =>
        let (value, s) ← value? fuel s
        match skip s with
        | ',' :: s =>
          let (members, s) ← pairs? fuel s
          return ((name, value) :: members, s)
        | '}' :: s => return ([(name, value)], s)
        | _ => none
      | _ => none
    | _ => none

end

/-- Read a whole text as one document. -/
def read? (text : String) : Option Json := do
  let s := text.toList
  let (j, s) ← value? (s.length + 1) s
  if (skip s).isEmpty then some j else none

end TagRules.Json
