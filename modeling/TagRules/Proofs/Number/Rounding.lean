import Mathlib.Tactic.Linarith
import Mathlib.Tactic.Ring
import TagRules.Number.Double

/-!
# Rounding depends on the value

`Double.ofRatio` rounds a quotient of natural numbers. The result depends on the value of the
quotient only (`ofRatio_congr`), and the value of a double rounds to itself (`ofRatio_ratio`). Both
rest on what the binary logarithm of a quotient is (`log2Ratio_eq`).
-/

namespace TagRules.Double

variable {n d n' d' : Nat} {e : Int}

/-- The quotient `n / d` is at least `2 ^ e`. -/
def AtLeast (n d : Nat) (e : Int) : Prop :=
  d * 2 ^ e.toNat ≤ n * 2 ^ (-e).toNat

instance : Decidable (AtLeast n d e) :=
  inferInstanceAs (Decidable (_ ≤ _))

/-- The exponent may be written as any difference. -/
theorem atLeast_iff {a b : Nat} (h : e = a - b) : AtLeast n d e ↔ d * 2 ^ a ≤ n * 2 ^ b := by
  obtain ⟨c, ha, hb⟩ : ∃ c, a = e.toNat + c ∧ b = (-e).toNat + c := ⟨min a b, by omega, by omega⟩
  rw [ha, hb, Nat.pow_add, Nat.pow_add, ← Nat.mul_assoc, ← Nat.mul_assoc,
    Nat.mul_le_mul_right_iff (Nat.two_pow_pos c)]
  rfl

theorem AtLeast.mono {f : Int} (h : AtLeast n d e) (le : f ≤ e) : AtLeast n d f := by
  have first : AtLeast n d e ↔ d * 2 ^ (e + (e.natAbs + f.natAbs)).toNat ≤
      n * 2 ^ (e.natAbs + f.natAbs) := atLeast_iff (by omega)
  have second : AtLeast n d f ↔ d * 2 ^ (f + (e.natAbs + f.natAbs)).toNat ≤
      n * 2 ^ (e.natAbs + f.natAbs) := atLeast_iff (by omega)
  refine second.2 (Nat.le_trans (Nat.mul_le_mul_left d ?_) (first.1 h))
  exact Nat.pow_le_pow_right (by decide) (by omega)

/-- The bound depends on the value of the quotient. -/
theorem AtLeast.congr (h : AtLeast n d e) (same : n * d' = n' * d) (pos : 0 < d) :
    AtLeast n' d' e := by
  unfold AtLeast at h ⊢
  refine Nat.le_of_mul_le_mul_left ?_ pos
  calc d * (d' * 2 ^ e.toNat) = d' * (d * 2 ^ e.toNat) := by ring
    _ ≤ d' * (n * 2 ^ (-e).toNat) := Nat.mul_le_mul_left d' h
    _ = n * d' * 2 ^ (-e).toNat := by ring
    _ = d * (n' * 2 ^ (-e).toNat) := by rw [same]; ring

theorem log2Ratio_spec (hn : 0 < n) (hd : 0 < d) :
    AtLeast n d (log2Ratio n d) ∧ ¬AtLeast n d (log2Ratio n d + 1) := by
  have lowN : 2 ^ n.log2 ≤ n := Nat.log2_self_le (by omega)
  have highN : n < 2 ^ (n.log2 + 1) := Nat.lt_log2_self
  have lowD : 2 ^ d.log2 ≤ d := Nat.log2_self_le (by omega)
  have highD : d < 2 ^ (d.log2 + 1) := Nat.lt_log2_self
  have unfolded : log2Ratio n d = if AtLeast n d (n.log2 - d.log2) then (n.log2 : Int) - d.log2
      else n.log2 - d.log2 - 1 := rfl
  rw [unfolded]
  split
  · next h =>
    refine ⟨h, fun more => ?_⟩
    have more := (atLeast_iff (a := n.log2 + 1) (b := d.log2) (by omega)).1 more
    have below : n * 2 ^ d.log2 < d * 2 ^ (n.log2 + 1) := by
      calc n * 2 ^ d.log2 ≤ n * d := Nat.mul_le_mul_left n lowD
        _ < 2 ^ (n.log2 + 1) * d := (Nat.mul_lt_mul_right hd).2 highN
        _ = d * 2 ^ (n.log2 + 1) := Nat.mul_comm _ _
    omega
  · next h =>
    refine ⟨?_, by rwa [Int.sub_add_cancel]⟩
    refine (atLeast_iff (a := n.log2) (b := d.log2 + 1) (by omega)).2 ?_
    calc d * 2 ^ n.log2 ≤ 2 ^ (d.log2 + 1) * n := Nat.mul_le_mul (Nat.le_of_lt highD) lowN
      _ = n * 2 ^ (d.log2 + 1) := Nat.mul_comm _ _

/-- The binary logarithm is the only exponent with these bounds. -/
theorem log2Ratio_eq (hn : 0 < n) (hd : 0 < d) (low : AtLeast n d e)
    (high : ¬AtLeast n d (e + 1)) : log2Ratio n d = e := by
  obtain ⟨low', high'⟩ := log2Ratio_spec hn hd
  by_contra other
  rcases Int.lt_or_gt_of_ne other with lt | gt
  · exact high' (low.mono (by omega))
  · exact high (low'.mono (by omega))

theorem log2Ratio_congr (same : n * d' = n' * d) (hn : 0 < n) (hd : 0 < d) (hn' : 0 < n')
    (hd' : 0 < d') : log2Ratio n d = log2Ratio n' d' := by
  obtain ⟨low, high⟩ := log2Ratio_spec hn' hd'
  refine log2Ratio_eq hn hd (low.congr same.symm hd') fun more => high (more.congr same hd)

theorem roundEven_mul {k : Nat} (pos : 0 < k) (n d : Nat) :
    roundEven (k * n) (k * d) = roundEven n d := by
  have cancel (a b : Nat) : 2 * (k * a) < k * b ↔ 2 * a < b := by
    rw [Nat.mul_left_comm]
    exact Nat.mul_lt_mul_left pos
  have cancel' (a b : Nat) : k * a < 2 * (k * b) ↔ a < 2 * b := by
    rw [Nat.mul_left_comm 2]
    exact Nat.mul_lt_mul_left pos
  simp only [roundEven, Nat.mul_div_mul_left n d pos, Nat.mul_mod_mul_left, cancel, cancel']

theorem roundEven_congr (same : n * d' = n' * d) (hd : 0 < d) (hd' : 0 < d') :
    roundEven n d = roundEven n' d' := by
  rw [← roundEven_mul hd' n d, ← roundEven_mul hd n' d', Nat.mul_comm d' n, same,
    Nat.mul_comm d' d, Nat.mul_comm n' d]

/-- The exponent of the last place of the double nearest to `n / d`. -/
def scaleOf (n d : Nat) : Int :=
  max (log2Ratio n d - 52) (-1074)

/-- The number of last places in the double nearest to `n / d`. -/
def placesOf (n d : Nat) : Nat :=
  roundEven (n * 2 ^ (-scaleOf n d).toNat) (d * 2 ^ (scaleOf n d).toNat)

theorem ofRatio_eq (negative : Bool) (hn : 0 < n) (hd : 0 < d) :
    ofRatio negative n d = (ofBits (min ((scaleOf n d + 1074).toNat * 2 ^ 52 + placesOf n d)
      (2047 * 2 ^ 52))).withSign negative := by
  unfold ofRatio
  rw [if_neg (by omega)]
  rfl

/-- Rounding depends on the value of the quotient. -/
theorem ofRatio_congr (negative : Bool) (same : n * d' = n' * d) (hd : 0 < d) (hd' : 0 < d') :
    ofRatio negative n d = ofRatio negative n' d' := by
  rcases Nat.eq_zero_or_pos n with rfl | hn
  · have zero : n' = 0 := by
      rw [Nat.zero_mul] at same
      exact (Nat.mul_eq_zero.1 same.symm).resolve_right (by omega)
    simp [ofRatio, zero]
  · have hn' : 0 < n' := by
      refine Nat.pos_of_ne_zero fun zero => ?_
      rw [zero, Nat.zero_mul] at same
      exact absurd same (Nat.mul_pos hn hd').ne'
    have scale : scaleOf n d = scaleOf n' d' := by
      simp only [scaleOf, log2Ratio_congr same hn hd hn' hd']
    have places : placesOf n d = placesOf n' d' := by
      unfold placesOf
      rw [scale]
      generalize scaleOf n' d' = scale
      refine roundEven_congr ?_ (Nat.mul_pos hd (Nat.two_pow_pos _))
        (Nat.mul_pos hd' (Nat.two_pow_pos _))
      calc n * 2 ^ (-scale).toNat * (d' * 2 ^ scale.toNat)
          = n * d' * (2 ^ (-scale).toNat * 2 ^ scale.toNat) := by ring
        _ = n' * 2 ^ (-scale).toNat * (d * 2 ^ scale.toNat) := by rw [same]; ring
    rw [ofRatio_eq negative hn hd, ofRatio_eq negative hn' hd', scale, places]

/-- The whole number of last places of a double. -/
def mantissa (x : Double) : Nat :=
  if x.exponent = 0 then x.fraction else x.fraction + 2 ^ 52

theorem ratio_eq (x : Double) : x.ratio = (x.mantissa * 2 ^ (max x.exponent 1 - 1075),
    2 ^ (1075 - max x.exponent 1)) := rfl

theorem withSign_false_of_not_negative {x : Double} (positive : x.negative = false) :
    x.withSign false = x := by
  have below : x.bits.toNat < 2 ^ 63 := by
    simpa [negative] using positive
  have same : x.magnitude = x.bits.toNat := Nat.mod_eq_of_lt below
  simp only [withSign, same, ofBits]
  simp

/-- The magnitude of a double counts the last places from zero, with each power of two. -/
theorem magnitude_eq (x : Double) :
    x.magnitude = (max x.exponent 1 - 1) * 2 ^ 52 + x.mantissa := by
  have exponent : x.exponent = x.bits.toNat % 2 ^ 63 / 2 ^ 52 := rfl
  have fraction : x.fraction = x.bits.toNat % 2 ^ 52 := rfl
  have magnitude : x.magnitude = x.bits.toNat % 2 ^ 63 := rfl
  unfold mantissa
  split <;> omega

theorem mantissa_lt (x : Double) : x.mantissa < 2 ^ 53 := by
  have fraction : x.fraction = x.bits.toNat % 2 ^ 52 := rfl
  unfold mantissa
  split <;> omega

/-- Only the numbers with the least exponent have fewer than fifty-three binary digits. -/
theorem le_mantissa {x : Double} (normal : x.exponent ≠ 0) : 2 ^ 52 ≤ x.mantissa := by
  unfold mantissa
  rw [if_neg normal]
  omega

theorem mantissa_lt_of_exponent_eq_zero {x : Double} (small : x.exponent = 0) :
    x.mantissa < 2 ^ 52 := by
  have fraction : x.fraction = x.bits.toNat % 2 ^ 52 := rfl
  unfold mantissa
  rw [if_pos small]
  omega

/-- The binary logarithm of a number of last places. -/
theorem log2Ratio_places {m : Nat} (pos : 0 < m) (a b : Nat) :
    log2Ratio (m * 2 ^ a) (2 ^ b) = m.log2 + a - b := by
  have low : 2 ^ m.log2 ≤ m := Nat.log2_self_le (by omega)
  have high : m < 2 ^ (m.log2 + 1) := Nat.lt_log2_self
  refine log2Ratio_eq (Nat.mul_pos pos (Nat.two_pow_pos _)) (Nat.two_pow_pos _) ?_ ?_
  · refine (atLeast_iff (a := m.log2 + a) (b := b) (by omega)).2 ?_
    rw [Nat.mul_comm, Nat.pow_add]
    exact Nat.mul_le_mul_right _ (Nat.mul_le_mul_right _ low)
  · intro more
    have more := (atLeast_iff (a := m.log2 + 1 + a) (b := b) (by omega)).1 more
    rw [Nat.mul_comm, Nat.pow_add] at more
    have := Nat.le_of_mul_le_mul_right (Nat.le_of_mul_le_mul_right more (Nat.two_pow_pos b))
      (Nat.two_pow_pos a)
    omega

/-- The value of a double is a whole number of its last places. -/
theorem scaleOf_ratio {x : Double} (pos : 0 < x.mantissa) :
    scaleOf x.ratio.1 x.ratio.2 = max x.exponent 1 - 1075 := by
  rw [scaleOf, ratio_eq, log2Ratio_places pos]
  have upper : x.mantissa.log2 < 53 := (Nat.log2_lt (by omega)).2 x.mantissa_lt
  by_cases small : x.exponent = 0
  · have upper : x.mantissa.log2 < 52 :=
      (Nat.log2_lt (by omega)).2 (mantissa_lt_of_exponent_eq_zero small)
    omega
  · have lower : 52 ≤ x.mantissa.log2 := (Nat.le_log2 (by omega)).2 (le_mantissa small)
    omega

theorem placesOf_ratio {x : Double} (pos : 0 < x.mantissa) :
    placesOf x.ratio.1 x.ratio.2 = x.mantissa := by
  rw [placesOf, scaleOf_ratio pos, ratio_eq]
  generalize max x.exponent 1 = scale
  have up : (-((scale : Int) - 1075)).toNat = 1075 - scale := by omega
  have down : ((scale : Int) - 1075).toNat = scale - 1075 := by omega
  have same : x.mantissa * 2 ^ (scale - 1075) * 2 ^ (1075 - scale) =
      2 ^ (scale - 1075) * 2 ^ (1075 - scale) * x.mantissa := by ring
  have one : 2 ^ (1075 - scale) * 2 ^ (scale - 1075) =
      2 ^ (scale - 1075) * 2 ^ (1075 - scale) * 1 := by ring
  rw [up, down, same, one, roundEven_mul (Nat.mul_pos (Nat.two_pow_pos _) (Nat.two_pow_pos _)),
    roundEven_one]

/-- A finite positive double is the double nearest to its value. -/
theorem ofRatio_ratio {x : Double} (finite : x.isFinite = true) (positive : x.negative = false)
    (nonzero : x.magnitude ≠ 0) : ofRatio false x.ratio.1 x.ratio.2 = x := by
  have below : x.exponent < 2047 := by simpa [isFinite] using finite
  have exponent : x.exponent = x.magnitude / 2 ^ 52 := rfl
  have counted := magnitude_eq x
  have pos : 0 < x.mantissa := by
    by_cases small : x.exponent = 0
    · omega
    · have := le_mantissa small
      omega
  have places : 0 < x.ratio.1 := by
    rw [ratio_eq]
    exact Nat.mul_pos pos (Nat.two_pow_pos _)
  have unit : 0 < x.ratio.2 := by
    rw [ratio_eq]
    exact Nat.two_pow_pos _
  have scale : (((max x.exponent 1 : Nat) : Int) - 1075 + 1074).toNat = max x.exponent 1 - 1 := by
    omega
  rw [ofRatio_eq false places unit, scaleOf_ratio pos, placesOf_ratio pos, scale, ← counted,
    Nat.min_eq_left (by omega)]
  have same : ofBits x.magnitude = x := withSign_false_of_not_negative positive
  rw [same]
  exact withSign_false_of_not_negative positive

theorem magnitude_ofBits {n : Nat} (h : n < 2 ^ 63) : (ofBits n).magnitude = n := by
  have bits : (ofBits n).bits.toNat = n := Nat.mod_eq_of_lt (by omega)
  have magnitude : (ofBits n).magnitude = (ofBits n).bits.toNat % 2 ^ 63 := rfl
  omega

theorem negative_ofBits {n : Nat} (h : n < 2 ^ 63) : (ofBits n).negative = false := by
  have bits : (ofBits n).bits.toNat = n := Nat.mod_eq_of_lt (by omega)
  simpa [negative, bits] using h

/-- The magnitude of a positive double that is nearest to a quotient. -/
theorem ofRatio_false_eq (hn : 0 < n) (hd : 0 < d) :
    ofRatio false n d = ofBits (min ((scaleOf n d + 1074).toNat * 2 ^ 52 + placesOf n d)
      (2047 * 2 ^ 52)) := by
  rw [ofRatio_eq false hn hd, withSign_false_of_not_negative (negative_ofBits (by omega))]

/-- A quotient far below the least double is rounded to zero. -/
theorem exists_le_of_ofRatio_ne_zero (hd : 0 < d) (nonzero : ofRatio false n d ≠ zero) :
    ∃ k ≤ 1075, d ≤ n * 2 ^ k := by
  by_contra none
  have small : ¬d ≤ n * 2 ^ 1075 := fun le => none ⟨1075, Nat.le_refl _, le⟩
  have small : 2 * (n * 2 ^ 1074) < d := by omega
  refine nonzero ?_
  rcases Nat.eq_zero_or_pos n with rfl | hn
  · rfl
  · have scale : scaleOf n d = -1074 := by
      have low : ¬AtLeast n d (-1022) := by
        intro more
        have more := (atLeast_iff (a := 52) (b := 1074) (by omega)).1 more
        omega
      have spec := (log2Ratio_spec hn hd).1
      have : log2Ratio n d < -1022 := by
        by_contra ge
        exact low (spec.mono (by omega))
      unfold scaleOf
      omega
    have places : placesOf n d = 0 := by
      unfold placesOf roundEven
      rw [scale]
      have down : d * 2 ^ (-1074 : Int).toNat = d := Nat.mul_one d
      have up : (-(-1074 : Int)).toNat = 1074 := rfl
      rw [down, up, Nat.mod_eq_of_lt (by omega), if_pos small]
      exact Nat.div_eq_of_lt (by omega)
    rw [ofRatio_false_eq hn hd, scale, places]
    rfl

/-- Natural numbers of at least sixty-four binary digits are rounded to such numbers. -/
theorem le_magnitude_ofNat (h : 2 ^ 63 ≤ n) : 1086 * 2 ^ 52 ≤ (ofNat n).magnitude := by
  have hn : 0 < n := by omega
  have log : 63 ≤ log2Ratio n 1 := by
    by_contra lt
    refine (log2Ratio_spec hn Nat.one_pos).2 (AtLeast.mono (e := 63) ?_ (by omega))
    exact (atLeast_iff (a := 63) (b := 0) (by omega)).2 (by omega)
  have scale : scaleOf n 1 = log2Ratio n 1 - 52 := by
    unfold scaleOf
    omega
  have places : 2 ^ 52 ≤ placesOf n 1 := by
    have low := (log2Ratio_spec hn Nat.one_pos).1
    have low := (atLeast_iff (a := 52 + (scaleOf n 1).toNat) (b := 0) (by omega)).1 low
    have up : (-scaleOf n 1).toNat = 0 := by omega
    unfold placesOf
    rw [up]
    have quotient : 2 ^ 52 ≤ n * 2 ^ 0 / (1 * 2 ^ (scaleOf n 1).toNat) := by
      rw [Nat.le_div_iff_mul_le (Nat.mul_pos Nat.one_pos (Nat.two_pow_pos _))]
      rw [Nat.pow_add] at low
      omega
    unfold roundEven
    simp only []
    split
    · exact quotient
    · split <;> omega
  unfold ofNat
  rw [ofRatio_false_eq hn Nat.one_pos, magnitude_ofBits (by omega)]
  omega

end TagRules.Double
