import Mathlib.Data.List.TakeWhile
import TagRules.Number.Decimal
import TagRules.Proofs.Number.Rounding

/-!
# Numbers read back as written

The shortest digits of a finite positive double read back to it (`shortest_reads`): those on a grid
because the search checks it, and the exact digits because a double is the one nearest to its own
value. In positional notation they are a numeral with a point, or the digits of a natural number
(`Numeral`).
-/

namespace TagRules

namespace Digits

theorem foldl_value (s : List Char) (n : Nat) :
    s.foldl (fun n c => 10 * n + digit c) n = n * 10 ^ s.length + value s := by
  induction s generalizing n with
  | nil => simp
  | cons c s ih =>
    have head : value (c :: s) = (10 * 0 + digit c) * 10 ^ s.length + value s := ih _
    rw [List.foldl_cons, ih, head, List.length_cons, Nat.pow_succ]
    ring

theorem value_append (s t : List Char) : value (s ++ t) = value s * 10 ^ t.length + value t := by
  rw [value, List.foldl_append, foldl_value]
  rfl

theorem value_replicate_zero (n : Nat) : value (List.replicate n '0') = 0 := by
  induction n with
  | zero => rfl
  | succ n ih =>
    rw [List.replicate_succ', value_append_singleton, ih]
    rfl

theorem value_padded (width n : Nat) : value (padded width n) = n := by
  rw [padded, value_append, value_replicate_zero, value_ofNat, Nat.zero_mul, Nat.zero_add]

theorem length_padded (width n : Nat) : width ≤ (padded width n).length := by
  rw [padded, List.length_append, List.length_replicate]
  omega

theorem all_isDigit_padded (width n : Nat) : (padded width n).all isDigit = true := by
  rw [padded, List.all_append, all_isDigit_ofNat, Bool.and_true, List.all_eq_true]
  intro c mem
  rw [List.eq_of_mem_replicate mem]
  rfl

/-- A list of digits without the zeros at its end. -/
theorem exists_zeros (s : List Char) :
    ∃ k, s = (s.reverse.dropWhile (· == '0')).reverse ++ List.replicate k '0' := by
  refine ⟨(s.reverse.takeWhile (· == '0')).length, ?_⟩
  have zeros : s.reverse.takeWhile (· == '0') =
      List.replicate (s.reverse.takeWhile (· == '0')).length '0' := by
    refine List.eq_replicate_of_mem fun c mem => ?_
    simpa using List.mem_takeWhile_imp mem
  conv_lhs => rw [← List.reverse_reverse s, ← s.reverse.takeWhile_append_dropWhile (p := (· == '0')),
    List.reverse_append, zeros, List.reverse_replicate]

/-- Digits are cut at a point, and the zeros at the end are left out. -/
theorem cut_at_point {text : List Char} {places : Nat} (long : places + 1 ≤ text.length) :
    ∃ k, text = text.take (text.length - places) ++
        ((text.drop (text.length - places)).reverse.dropWhile (· == '0')).reverse ++
        List.replicate k '0' ∧
      ((text.drop (text.length - places)).reverse.dropWhile (· == '0')).reverse.length + k =
        places ∧ text.take (text.length - places) ≠ [] := by
  obtain ⟨k, zeros⟩ := exists_zeros (text.drop (text.length - places))
  refine ⟨k, ?_, ?_, ?_⟩
  · rw [List.append_assoc, ← zeros, List.take_append_drop]
  · have width := congrArg List.length zeros
    rw [List.length_drop, List.length_append, List.length_replicate] at width
    omega
  · rw [Ne, List.take_eq_nil_iff]
    rintro (none | none)
    · omega
    · simp [none] at long

end Digits

namespace Double

variable {x : Double} {digits : Nat} {power : Int}

/-- The digits of a decimal make a quotient that rounds to a number. -/
structure Reads (x : Double) (digits : Nat) (power : Int) : Prop where
  nonzero : digits ≠ 0
  rounds : ofRatio false (digits * 10 ^ power.toNat) (10 ^ (-power).toNat) = x

theorem reads_of_ofDecimal (h : ofDecimal false digits power = x) (finite : x.isFinite = true)
    (nonzero : x.magnitude ≠ 0) : Reads x digits power := by
  unfold ofDecimal at h
  split at h
  · rw [← h] at nonzero
    exact absurd rfl nonzero
  · split at h
    · rw [← h] at finite
      exact absurd finite (by decide)
    · split at h
      · rw [← h] at nonzero
        exact absurd rfl nonzero
      · exact ⟨‹_›, h⟩

/-- All digits of the exact value read back to the number. -/
theorem exact_reads (finite : x.isFinite = true) (positive : x.negative = false)
    (nonzero : x.magnitude ≠ 0) (places : Nat) (enough : 1074 ≤ places) :
    Reads x (x.ratio.1 * Nat.pow 10 places / x.ratio.2) (-(places : Int)) := by
  simp only [Nat.pow_eq]
  have unit : x.ratio.2 = 2 ^ (1075 - max x.exponent 1) := congrArg Prod.snd x.ratio_eq
  have pos : 0 < x.ratio.2 := unit ▸ Nat.two_pow_pos _
  have divides : x.ratio.2 ∣ 10 ^ places := by
    rw [unit, show (10 : Nat) = 2 * 5 from rfl, Nat.mul_pow]
    exact Nat.dvd_mul_right_of_dvd (Nat.pow_dvd_pow 2 (by omega)) _
  have exact' : x.ratio.1 * 10 ^ places / x.ratio.2 * x.ratio.2 = x.ratio.1 * 10 ^ places :=
    Nat.div_mul_cancel (Nat.dvd_mul_left_of_dvd divides _)
  have value := ofRatio_ratio finite positive nonzero
  have tens : 0 < 10 ^ places := Nat.pow_pos (by decide)
  refine ⟨fun none => ?_, ?_⟩
  · rw [none, Nat.zero_mul] at exact'
    have whole : x.ratio.1 = 0 := (Nat.mul_eq_zero.1 exact'.symm).resolve_right (by omega)
    rw [whole] at value
    rw [← value] at nonzero
    exact absurd rfl nonzero
  · have down : (-(places : Int)).toNat = 0 := by omega
    have up : (-(-(places : Int))).toNat = places := by omega
    rw [down, up, Nat.pow_zero, Nat.mul_one]
    exact (ofRatio_congr false exact' tens pos).trans value

/-- The shortest digits read back to the number. -/
theorem shortest_reads (finite : x.isFinite = true) (positive : x.negative = false)
    (nonzero : x.magnitude ≠ 0) : Reads x x.shortest.1 x.shortest.2 := by
  unfold shortest
  simp only []
  split
  · next found h =>
    obtain ⟨power, -, here⟩ := List.exists_of_findSome?_eq_some h
    obtain ⟨digits, there, rfl⟩ := Option.map_eq_some_iff.1 here
    have reads := List.find?_some there
    simp only [decide_eq_true_eq] at reads
    exact reads_of_ofDecimal reads finite nonzero
  · exact exact_reads finite positive nonzero exactPlaces (Nat.le_refl _)

/-- A numeral that reads as a number: the digits of a natural number, or digits with a point. -/
inductive Numeral (x : Double) (s : List Char) : Prop
  | whole (some : s ≠ []) (digits : s.all Digits.isDigit = true)
    (rounds : ofNat (Digits.value s) = x)
  | point {before after : List Char} (form : s = before ++ '.' :: after) (some : before ≠ [])
    (digits : before.all Digits.isDigit = true) (places : after.all Digits.isDigit = true)
    (reads : readDecimal? s = .some x)

theorem readDecimal?_point {before after : List Char} (some : before ≠ [])
    (digits : before.all Digits.isDigit = true) (places : after.all Digits.isDigit = true) :
    readDecimal? (before ++ '.' :: after) =
      .some (ofDecimal false (Digits.value (before ++ after)) (-(after.length : Int))) := by
  have digits := List.all_eq_true.1 digits
  have places := List.all_eq_true.1 places
  have ends : after.takeWhile Digits.isDigit = after ∧ after.dropWhile Digits.isDigit = [] := by
    constructor
    · simpa using places
    · simpa using places
  unfold readDecimal?
  rw [List.takeWhile_append_of_pos digits, List.dropWhile_append_of_pos digits]
  have point : Digits.isDigit '.' = false := rfl
  simp [point, ends, some]

/-- A decimal below one place is read where it does not vanish. -/
theorem ofDecimal_neg {v : Nat} {places : Nat} (nonzero : v ≠ 0)
    (rounds : ofRatio false v (10 ^ places) = x) (positive : x ≠ zero) :
    ofDecimal false v (-(places : Int)) = x := by
  obtain ⟨k, bound, low⟩ :=
    exists_le_of_ofRatio_ne_zero (Nat.pow_pos (by decide)) (rounds ▸ positive)
  have large : places < v.log2 + 1076 := by
    have high : v < 2 ^ (v.log2 + 1) := Nat.lt_log2_self
    have grows : 2 ^ places ≤ 10 ^ places := Nat.pow_le_pow_left (by decide) places
    have : 2 ^ places < 2 ^ (v.log2 + 1 + k) := by
      calc 2 ^ places ≤ v * 2 ^ k := Nat.le_trans grows low
        _ < 2 ^ (v.log2 + 1) * 2 ^ k := (Nat.mul_lt_mul_right (Nat.two_pow_pos k)).2 high
        _ = 2 ^ (v.log2 + 1 + k) := (Nat.pow_add 2 _ _).symm
    have := (Nat.pow_lt_pow_iff_right (by decide)).1 this
    omega
  have down : (-(places : Int)).toNat = 0 := by omega
  have up : (-(-(places : Int))).toNat = places := by omega
  unfold ofDecimal
  rw [if_neg nonzero, if_neg (by omega), if_neg (by omega), down, up]
  simp only [Nat.pow_eq, Nat.pow_zero, Nat.mul_one]
  exact rounds

/-- Positional notation is a numeral. -/
theorem positional_numeral (reads : Reads x digits power) (positive : x ≠ zero) :
    Numeral x (positional digits power) := by
  unfold positional
  split
  · next whole =>
    have none : (-power).toNat = 0 := by omega
    have rounds := reads.rounds
    rw [none] at rounds
    refine .whole (Digits.ofNat_ne_nil _) (Digits.all_isDigit_ofNat _) ?_
    rw [Digits.value_ofNat]
    exact rounds
  · next fraction =>
    obtain ⟨places, rfl⟩ : ∃ places : Nat, power = -(places : Int) := ⟨(-power).toNat, by omega⟩
    have down : (-(places : Int)).toNat = 0 := by omega
    have up : (-(-(places : Int))).toNat = places := by omega
    have rounds := reads.rounds
    rw [down, up, Nat.pow_zero, Nat.mul_one] at rounds
    rw [up]
    have value := Digits.value_padded (places + 1) digits
    have long := Digits.length_padded (places + 1) digits
    have all := Digits.all_isDigit_padded (places + 1) digits
    simp only []
    generalize Digits.padded (places + 1) digits = text at value long all ⊢
    obtain ⟨k, form, width, some⟩ := Digits.cut_at_point long
    generalize text.take (text.length - places) = before at form some ⊢
    generalize ((text.drop (text.length - places)).reverse.dropWhile (· == '0')).reverse = after
      at form width ⊢
    rw [form, Digits.value_append, List.length_replicate, Digits.value_replicate_zero,
      Nat.add_zero] at value
    rw [form] at all
    simp only [List.all_append, Bool.and_eq_true] at all
    obtain ⟨⟨digits', places'⟩, -⟩ := all
    -- The zeros that are left out are as many powers of ten.
    have nonzero : Digits.value (before ++ after) ≠ 0 := fun none => by
      rw [none, Nat.zero_mul] at value
      exact reads.nonzero value.symm
    have rounds' : ofRatio false (Digits.value (before ++ after)) (10 ^ after.length) = x := by
      rw [← rounds]
      refine ofRatio_congr false ?_ (Nat.pow_pos (by decide)) (Nat.pow_pos (by decide))
      rw [← value, ← width, Nat.pow_add]
      ring
    split
    · next none =>
      have none : after = [] := by simpa using none
      rw [none, List.append_nil] at rounds'
      exact .whole some digits' rounds'
    · refine .point rfl some digits' places' ?_
      rw [readDecimal?_point some digits' places', ofDecimal_neg nonzero rounds' positive]

theorem isNaN_eq_false (finite : x.isFinite = true) : x.isNaN = false := by
  have below : x.exponent < 2047 := by simpa [isFinite] using finite
  simp only [isNaN, Bool.and_eq_false_iff, decide_eq_false_iff_not]
  exact .inl (by omega)

theorem isInfinite_eq_false (finite : x.isFinite = true) : x.isInfinite = false := by
  have below : x.exponent < 2047 := by simpa [isFinite] using finite
  simp only [isInfinite, Bool.and_eq_false_iff, decide_eq_false_iff_not]
  exact .inl (by omega)

/-- A finite positive number is written by its shortest digits. -/
theorem toDecimal_eq (finite : x.isFinite = true) (positive : x.negative = false)
    (nonzero : x.magnitude ≠ 0) : x.toDecimal = positional x.shortest.1 x.shortest.2 := by
  simp only [toDecimal, isNaN_eq_false finite, isInfinite_eq_false finite, positive, nonzero,
    withSign_false_of_not_negative positive, Bool.false_eq_true, if_false, List.nil_append]

theorem eq_zero_of_magnitude (positive : x.negative = false) (none : x.magnitude = 0) :
    x = zero := by
  have same := withSign_false_of_not_negative positive
  rw [← same, withSign, none]
  rfl

/-- A number without fraction is the double nearest to its integer part. -/
theorem ofNat_wholePart (integral : x.isIntegral = true) (positive : x.negative = false) :
    ofNat x.wholePart = x := by
  simp only [isIntegral, Bool.and_eq_true, decide_eq_true_eq] at integral
  by_cases none : x.magnitude = 0
  · rw [eq_zero_of_magnitude positive none]
    decide +kernel
  · have value := ofRatio_ratio integral.1 positive none
    have unit : 0 < x.ratio.2 := by
      rw [ratio_eq]
      exact Nat.two_pow_pos _
    refine Eq.trans (ofRatio_congr false ?_ Nat.one_pos unit) value
    rw [wholePart, Nat.div_mul_cancel (Nat.dvd_of_mod_eq_zero integral.2), Nat.mul_one]

/-- The text of a finite number that is not negative is a numeral. -/
theorem format_numeral (finite : x.isFinite = true) (positive : x.negative = false) :
    Numeral x x.format.toList := by
  have other : x ≠ infinity := fun same => by
    rw [same] at finite
    exact absurd finite (by decide)
  unfold format
  rw [if_neg other]
  split
  · next small =>
    simp only [Bool.and_eq_true] at small
    have plain : Digits.ofInt (if x.negative = true then -(x.wholePart : Int) else x.wholePart) =
        Digits.ofNat x.wholePart := by
      rw [positive, if_neg Bool.false_ne_true, Digits.ofInt, if_neg (by omega), Int.natAbs_natCast]
    rw [plain, String.toList_ofList]
    refine .whole (Digits.ofNat_ne_nil _) (Digits.all_isDigit_ofNat _) ?_
    rw [Digits.value_ofNat]
    exact ofNat_wholePart small.1 positive
  · next large =>
    have nonzero : x.magnitude ≠ 0 := fun none => by
      rw [eq_zero_of_magnitude positive none] at large
      exact large (by decide +kernel)
    have notZero : x ≠ zero := fun same => nonzero (same ▸ rfl)
    have reads := shortest_reads finite positive nonzero
    rw [String.toList_ofList, toDecimal_eq finite positive nonzero]
    exact positional_numeral reads notZero

end Double

end TagRules
