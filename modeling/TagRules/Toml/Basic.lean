import TagRules.Number.Decimal

/-!
# TOML documents

The values of a TOML document, and how they are read leniently: a number or a truth value may also
be written as text, and any plain value can serve as text. A date and a time count as text.
-/

namespace TagRules

/-- A value. A table keeps the order of its entries; no key occurs twice in it. -/
inductive Toml where
  /-- What stands at a place that is known but has not been set. -/
  | nothing
  | string (s : String)
  | integer (n : Int)
  | float (x : Double)
  | bool (b : Bool)
  | array (items : List Toml)
  | table (entries : List (String × Toml))
deriving Inhabited

namespace Toml

/-- The text of a word in lower case. -/
def lower (s : String) : String :=
  String.ofList (s.toList.map Char.toLower)

/-- The nearest integer to a finite number that is not negative, a half away from zero; zero for a
negative number and for none. -/
def roundedNat (x : Double) : Nat :=
  if x.isNaN || x.negative then 0
  else if x.isInfinite then Nat.pow 2 64 - 1
  else min ((2 * x.ratio.1 + x.ratio.2) / (2 * x.ratio.2)) (Nat.pow 2 64 - 1)

/-- Read a natural number of 64 bits from text. -/
def natOfText? (s : String) : Option Nat :=
  let digits :=
    match s.toList with
    | '+' :: digits => digits
    | digits => digits
  (Digits.read? digits).filter (· < Nat.pow 2 64)

/-- A natural number of 64 bits. -/
def toNat? : Toml → Option Nat
  | integer n => if 0 ≤ n then some n.toNat else none
  | float x => some (roundedNat x)
  | bool b => some (if b then 1 else 0)
  | string s => ofText s
  | _ => none
where
  /-- A number, or a word for a truth value. -/
  ofText (s : String) : Option Nat :=
    if ["true", "on", "yes"].contains (lower s) then some 1
    else if ["false", "off", "no"].contains (lower s) then some 0
    else natOfText? s

/-- A truth value. -/
def toBool? : Toml → Option Bool
  | bool b => some b
  | integer n => some (n ≠ 0)
  | float x => some !(x.eq .zero)
  | string s => ofText s
  | _ => none
where
  /-- A word for a truth value. -/
  ofText (s : String) : Option Bool :=
    if ["1", "true", "on", "yes"].contains (lower s) then some true
    else if ["0", "false", "off", "no"].contains (lower s) then some false
    else none

/-- A text. -/
def toText? : Toml → Option String
  | string s => some s
  | integer n => some (String.ofList (Digits.ofInt n))
  | float x => some (String.ofList x.toDecimal)
  | bool b => some (if b then "true" else "false")
  | _ => none

/-- A value that may be missing. -/
def toOption? (decode : Toml → Option α) : Toml → Option (Option α)
  | nothing => some none
  | t => (decode t).map some

/-- A list whose items are all accepted. -/
def toList? (decode : Toml → Option α) : Toml → Option (List α)
  | array items => items.mapM decode
  | _ => none

/-- The entries of a record by name; an array stands for the values in declared order. -/
def entries? (names : List String) : Toml → Option (List (String × Toml))
  | table entries => some entries
  | array items => some (names.zip items)
  | _ => none

/-- An entry with a default. -/
def entryOr (entries : List (String × Toml)) (name : String) (decode : Toml → Option α)
    (default : α) : Option α :=
  match entries.lookup name with
  | none => some default
  | some t => decode t

end Toml

end TagRules
