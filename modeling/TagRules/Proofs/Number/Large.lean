import TagRules.Proofs.Number.RoundTrip

/-!
# Large numbers are written as integers

From `2 ^ 63` on, the digits that `Double.shortest` finds are followed by zeros or end at the point,
so the text of such a number is a row of digits without a point (`all_isDigit_format`), and the
digits make an integer that is no smaller than `2 ^ 63` (`le_value_format`). A numeral has no sign,
so what it reads as is `Unsigned`.
-/

namespace TagRules

/-- Factors of ten are zeros at the end. -/
theorem Digits.ofNat_mul_pow {m : Nat} (pos : 0 < m) (k : Nat) :
    ofNat (m * 10 ^ k) = ofNat m ++ List.replicate k '0' := by
  induction k with
  | zero => simp
  | succ k ih =>
    have ten : 0 < m * 10 ^ k := Nat.mul_pos pos (Nat.pow_pos (by decide))
    rw [Nat.pow_succ, ← Nat.mul_assoc, ofNat_of_le (by omega), Nat.mul_div_cancel _ (by decide),
      Nat.mul_mod_left, ih, List.replicate_succ', List.append_assoc]
    rfl

/-- A row of zeros vanishes where the zeros at the end are left out. -/
theorem Digits.dropWhile_replicate_zero (k : Nat) :
    (List.replicate k '0').reverse.dropWhile (· == '0') = [] := by
  rw [List.reverse_replicate, List.dropWhile_eq_nil_iff]
  intro c mem
  rw [List.eq_of_mem_replicate mem]
  rfl

namespace Double

variable {x : Double} {n d : Nat}

/-- A number that a numeral without sign can stand for: it is not negative, nor NaN. -/
def Unsigned (x : Double) : Prop :=
  x.negative = false ∧ x.magnitude ≤ 2047 * 2 ^ 52

theorem unsigned_ofBits (h : n ≤ 2047 * 2 ^ 52) : (ofBits n).Unsigned :=
  ⟨negative_ofBits (by omega), by rwa [magnitude_ofBits (by omega)]⟩

theorem unsigned_ofRatio (n d : Nat) : (ofRatio false n d).Unsigned := by
  by_cases none : n = 0 ∨ d = 0
  · rw [ofRatio, if_pos none]
    exact unsigned_ofBits (Nat.zero_le _)
  · rw [ofRatio_false_eq (by omega) (by omega)]
    exact unsigned_ofBits (Nat.min_le_right _ _)

theorem unsigned_ofDecimal (digits : Nat) (power : Int) :
    (ofDecimal false digits power).Unsigned := by
  unfold ofDecimal
  split
  · exact unsigned_ofBits (Nat.zero_le _)
  · split
    · exact unsigned_ofBits (Nat.le_refl _)
    · split
      · exact unsigned_ofBits (Nat.zero_le _)
      · exact unsigned_ofRatio _ _

/-- What a decimal numeral reads as is unsigned, whatever its exponent. -/
theorem unsigned_readDecimal? {s : List Char} (reads : readDecimal? s = some x) : x.Unsigned := by
  have scaled {digits : List Char} {power : Int}
      (h : (if digits.isEmpty then none else some (ofDecimal false (Digits.value digits) power)) =
        some x) : x.Unsigned := by
    split at h
    · cases h
    · cases h
      exact unsigned_ofDecimal _ _
  simp only [readDecimal?] at reads
  split at reads
  · exact scaled reads
  · split at reads
    · split at reads
      all_goals
        obtain ⟨exponent, -, reads⟩ := Option.bind_eq_some_iff.1 reads
        exact scaled reads
    · cases reads

/-- An unsigned number is infinity or finite. -/
theorem Unsigned.finite (unsigned : x.Unsigned) (other : x ≠ infinity) : x.isFinite = true := by
  obtain ⟨positive, bound⟩ := unsigned
  have exponent : x.exponent = x.magnitude / 2 ^ 52 := rfl
  have below : x.magnitude ≠ 2047 * 2 ^ 52 := by
    intro same
    apply other
    have bits : ofBits x.magnitude = x := withSign_false_of_not_negative positive
    rw [← bits, same]
    rfl
  simp only [isFinite, decide_eq_true_eq]
  omega

/-- A finite number that is not below the limit of integers is large. -/
theorem le_magnitude_of_not_lt (finite : x.isFinite = true) (positive : x.negative = false)
    (above : x.lt (ofNat (2 ^ 63)) = false) : 1086 * 2 ^ 52 ≤ x.magnitude := by
  have limit : (ofNat (2 ^ 63)).place = 1086 * 2 ^ 52 := by decide +kernel
  have number : (ofNat (2 ^ 63)).isNaN = false := by decide +kernel
  have place : x.place = x.magnitude := by
    rw [Double.place, positive, if_neg Bool.false_ne_true]
  simp only [lt, limit, number, place, isNaN_eq_false finite, Bool.not_false, Bool.and_self,
    Bool.true_and, decide_eq_false_iff_not] at above
  omega

/-- Natural numbers below `2 ^ 63` are rounded to at most `2 ^ 63`. -/
theorem magnitude_ofNat_le (h : n < 2 ^ 63) : (ofNat n).magnitude ≤ 1086 * 2 ^ 52 := by
  rcases Nat.eq_zero_or_pos n with rfl | hn
  · decide +kernel
  · obtain ⟨low, high⟩ := log2Ratio_spec hn Nat.one_pos
    have log : log2Ratio n 1 ≤ 62 := by
      by_contra gt
      have low := (atLeast_iff (a := 63) (b := 0) (by omega)).1 (low.mono (f := 63) (by omega))
      omega
    have log' : 0 ≤ log2Ratio n 1 := by
      by_contra lt
      refine high (AtLeast.mono (e := 0) ?_ (by omega))
      exact (atLeast_iff (a := 0) (b := 0) (by omega)).2 (by omega)
    have scale : scaleOf n 1 = log2Ratio n 1 - 52 := by
      unfold scaleOf
      omega
    have places : placesOf n 1 ≤ 2 ^ 53 := by
      have below : n * 2 ^ (-scaleOf n 1).toNat < 2 ^ 53 * (1 * 2 ^ (scaleOf n 1).toNat) := by
        have high := mt (atLeast_iff (a := 53 + (scaleOf n 1).toNat) (b := (-scaleOf n 1).toNat)
          (by omega)).2 high
        rw [Nat.pow_add] at high
        omega
      have quotient := (Nat.div_lt_iff_lt_mul (Nat.mul_pos Nat.one_pos (Nat.two_pow_pos _))).2 below
      unfold placesOf roundEven
      simp only []
      split
      · omega
      · split <;> omega
    unfold ofNat
    rw [ofRatio_false_eq hn Nat.one_pos, magnitude_ofBits (by omega)]
    omega

/-- The search for the decimal logarithm goes down by at most its fuel. -/
theorem sub_le_log10From (n d fuel : Nat) (p : Int) : p - fuel ≤ log10From n d fuel p := by
  induction fuel generalizing p with
  | zero => simp [log10From]
  | succ fuel ih =>
    unfold log10From
    split
    · omega
    · have := ih (p - 1)
      omega

/-- Digits that end in as many zeros as there are places are written without a point. -/
theorem positional_mul_pow {m : Nat} (pos : 0 < m) (k : Nat) :
    positional (m * 10 ^ k) (-(k : Int)) = Digits.ofNat m := by
  have text : Digits.padded (k + 1) (m * 10 ^ k) = Digits.ofNat m ++ List.replicate k '0' := by
    have some := List.length_pos_iff.2 (Digits.ofNat_ne_nil m)
    simp only [Digits.padded, Digits.ofNat_mul_pow pos, List.length_append, List.length_replicate]
    rw [Nat.sub_eq_zero_of_le (by omega)]
    rfl
  have places : (-(-(k : Int))).toNat = k := by omega
  unfold positional
  split
  · next whole =>
    obtain rfl : k = 0 := by omega
    simp
  · rw [places]
    simp only [text, List.length_append, List.length_replicate, Nat.add_sub_cancel, List.drop_left,
      List.take_left, Digits.dropWhile_replicate_zero, List.reverse_nil, List.isEmpty_nil, if_true]

section Large

variable (large : 1086 * 2 ^ 52 ≤ x.magnitude)

include large

theorem le_exponent : 1086 ≤ x.exponent := by
  have exponent : x.exponent = x.magnitude / 2 ^ 52 := rfl
  omega

theorem ratio_of_large : x.ratio = (x.mantissa * 2 ^ (x.exponent - 1075), 1) := by
  have exponent := le_exponent large
  rw [ratio_eq, Nat.max_eq_left (by omega), Nat.sub_eq_zero_of_le (by omega : 1075 ≤ x.exponent),
    Nat.pow_zero]

theorem mantissa_pos : 0 < x.mantissa := by
  have exponent := le_exponent large
  have := le_mantissa (x := x) (by omega)
  omega

theorem ratio_pos : 0 < x.ratio.1 := by
  rw [ratio_of_large large]
  exact Nat.mul_pos (mantissa_pos large) (Nat.two_pow_pos _)

/-- Two to the sixty-third has nineteen digits, and the estimate is off by at most two. -/
theorem le_log10Ratio : 17 ≤ log10Ratio x.ratio.1 x.ratio.2 := by
  have exponent := le_exponent large
  have log : 63 ≤ log2Ratio x.ratio.1 x.ratio.2 := by
    have binary := log2Ratio_places (mantissa_pos large) (x.exponent - 1075) 0
    have digits : 52 ≤ x.mantissa.log2 :=
      (Nat.le_log2 (mantissa_pos large).ne').2 (le_mantissa (by omega))
    rw [ratio_of_large large]
    rw [Nat.pow_zero] at binary
    rw [binary]
    omega
  have search := sub_le_log10From x.ratio.1 x.ratio.2 3
    ((log2Ratio x.ratio.1 x.ratio.2 + 1) * 30103 / 100000 + 1)
  unfold log10Ratio
  omega

/-- The shortest digits end at the point or before it, or they are the exact ones. -/
theorem shortest_of_large :
    0 ≤ x.shortest.2 ∨ x.shortest = (x.ratio.1 * 10 ^ exactPlaces, -(exactPlaces : Int)) := by
  have top := le_log10Ratio large
  unfold shortest
  simp only []
  split
  · next found h =>
    obtain ⟨power, mem, here⟩ := List.exists_of_findSome?_eq_some h
    obtain ⟨digits, -, rfl⟩ := Option.map_eq_some_iff.1 here
    obtain ⟨k, few, rfl⟩ := List.mem_map.1 mem
    have := List.mem_range.1 few
    left
    show 0 ≤ log10Ratio x.ratio.1 x.ratio.2 - k
    omega
  · right
    have unit : x.ratio.2 = 1 := congrArg Prod.snd (ratio_of_large large)
    rw [unit, Nat.div_one, Nat.pow_eq]

/-- There is no point in the positional notation. -/
theorem all_isDigit_positional :
    (positional x.shortest.1 x.shortest.2).all Digits.isDigit = true := by
  rcases shortest_of_large large with whole | exact'
  · rw [positional, if_pos whole]
    exact Digits.all_isDigit_ofNat _
  · rw [exact', positional_mul_pow (ratio_pos large)]
    exact Digits.all_isDigit_ofNat _

variable (finite : x.isFinite = true) (positive : x.negative = false)

include finite positive

/-- The text of a large number is a row of digits. -/
theorem all_isDigit_format : x.format.toList.all Digits.isDigit = true := by
  have other : x ≠ infinity := by
    rintro rfl
    exact absurd finite (by decide)
  have wide : ¬x.wholePart < Nat.pow 10 15 := by
    have exponent := le_exponent large
    have mantissa : 2 ^ 52 ≤ x.mantissa := le_mantissa (by omega)
    have scale : 2 ^ 11 ≤ 2 ^ (x.exponent - 1075) := Nat.pow_le_pow_right (by decide) (by omega)
    have whole : 2 ^ 52 * 2 ^ 11 ≤ x.mantissa * 2 ^ (x.exponent - 1075) :=
      Nat.mul_le_mul mantissa scale
    rw [wholePart, ratio_of_large large, Nat.div_one, Nat.pow_eq]
    omega
  have text := toDecimal_eq finite positive (by omega)
  rw [format, if_neg other, if_neg (by simp [wide]), String.toList_ofList, text]
  exact all_isDigit_positional large

/-- The digits of a large number make an integer beyond the limit: only `2 ^ 63` itself is nearest to
smaller integers too, and its shortest digits round it up. -/
theorem le_value_format : 2 ^ 63 ≤ Digits.value x.format.toList := by
  by_cases least : x = ofNat (2 ^ 63)
  · rw [least]
    decide +kernel
  · by_contra below
    have digits := all_isDigit_format large finite positive
    have rounds : ofNat (Digits.value x.format.toList) = x := by
      have numeral := format_numeral finite positive
      cases numeral with
      | whole _ _ rounds => exact rounds
      | point form =>
        rw [form] at digits
        simp [show Digits.isDigit '.' = false from rfl] at digits
    have bound := magnitude_ofNat_le (Nat.lt_of_not_le below)
    rw [rounds] at bound
    apply least
    have bits : ofBits x.magnitude = x := withSign_false_of_not_negative positive
    rw [← bits, Nat.le_antisymm bound large]
    decide +kernel

end Large

end Double

end TagRules
