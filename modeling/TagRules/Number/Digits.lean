/-!
# Decimal digits of a natural number

`Digits.ofNat` writes a natural number without leading zeros and `Digits.value` reads a list of
digits. Reading gives back what was written (`value_ofNat`).
-/

namespace TagRules.Digits

/-- The character of a digit below ten. -/
def char (d : Nat) : Char :=
  Char.ofNat ('0'.toNat + d)

/-- An ASCII digit. -/
def isDigit (c : Char) : Bool :=
  '0' ≤ c && c ≤ '9'

/-- The value of an ASCII digit. -/
def digit (c : Char) : Nat :=
  c.toNat - '0'.toNat

/-- The decimal digits of a number, most significant first. -/
def ofNat (n : Nat) : List Char :=
  if n < 10 then [char n] else ofNat (n / 10) ++ [char (n % 10)]
termination_by n
decreasing_by omega

/-- The number that digits stand for, leading zeros allowed. -/
def value (s : List Char) : Nat :=
  s.foldl (fun n c => 10 * n + digit c) 0

/-- Read a non-empty list of digits. -/
def read? (s : List Char) : Option Nat :=
  if s ≠ [] ∧ s.all isDigit then some (value s) else none

/-- Read a given number of digits in front of a text. -/
def take? (width : Nat) (s : List Char) : Option (Nat × List Char) :=
  let digits := s.take width
  if digits.length = width ∧ digits.all isDigit then some (value digits, s.drop width) else none

/-- The digits after a point as a number of units of the last of some places. Digits beyond these
places are dropped. -/
def fraction (places : Nat) (s : List Char) : Nat :=
  let kept := s.take places
  value kept * Nat.pow 10 (places - kept.length)

/-- The digits of an integer, with a minus sign where it is negative. -/
def ofInt (n : Int) : List Char :=
  if n < 0 then '-' :: ofNat n.natAbs else ofNat n.natAbs

/-- Pad with zeros in front up to a width. -/
def padded (width : Nat) (n : Nat) : List Char :=
  let digits := ofNat n
  List.replicate (width - digits.length) '0' ++ digits

@[simp] theorem value_nil : value [] = 0 := rfl

@[simp] theorem value_append_singleton (s : List Char) (c : Char) :
    value (s ++ [c]) = 10 * value s + digit c := by
  simp [value, List.foldl_append]

theorem isDigit_char {d : Nat} (h : d < 10) : isDigit (char d) = true := by
  have : ∀ d : Fin 10, isDigit (char d) = true := by decide
  exact this ⟨d, h⟩

theorem digit_char {d : Nat} (h : d < 10) : digit (char d) = d := by
  have : ∀ d : Fin 10, digit (char d) = d := by decide
  exact this ⟨d, h⟩

theorem ofNat_of_lt {n : Nat} (h : n < 10) : ofNat n = [char n] := by
  rw [ofNat, if_pos h]

theorem ofNat_of_le {n : Nat} (h : 10 ≤ n) : ofNat n = ofNat (n / 10) ++ [char (n % 10)] := by
  rw [ofNat, if_neg (by omega)]

@[simp] theorem value_ofNat (n : Nat) : value (ofNat n) = n := by
  induction n using Nat.strongRecOn with
  | _ n ih =>
    by_cases h : n < 10
    · simp [ofNat_of_lt h, value, digit_char h]
    · rw [ofNat_of_le (by omega), value_append_singleton, ih _ (by omega),
        digit_char (Nat.mod_lt _ (by omega))]
      omega

theorem ofNat_ne_nil (n : Nat) : ofNat n ≠ [] := by
  rw [ofNat]
  split <;> simp

theorem all_isDigit_ofNat (n : Nat) : (ofNat n).all isDigit = true := by
  induction n using Nat.strongRecOn with
  | _ n ih =>
    by_cases h : n < 10
    · simp [ofNat_of_lt h, isDigit_char h]
    · rw [ofNat_of_le (by omega), List.all_append, ih _ (by omega)]
      simp [isDigit_char (Nat.mod_lt n (show 10 > 0 by omega))]

@[simp] theorem read?_ofNat (n : Nat) : read? (ofNat n) = some n := by
  simp [read?, ofNat_ne_nil, all_isDigit_ofNat]

end TagRules.Digits
