import TagRules.Proofs.Expr.Token
import TagRules.Proofs.Number.Large

/-!
# Printed numbers are read again

The text of a number that a word stands for is a word again. Infinity and the numbers below `2 ^ 63`
are read as what they were. From `2 ^ 63` on, where a word can only come from a numeral with a point
or by rounding, the text has no point, its integer is too large for 64 bits, and it is read as a bare
word (`Compile.word_format`).
-/

namespace TagRules.Compile

variable {token : List Char} {n : Double} {d d' : Draft}

/-- Only a numeral yields a number, and it leaves the draft as it is. -/
theorem word_eq_number :
    StateT.run (word token) d = .ok (.number n, d') ↔ number? token = some n ∧ d' = d := by
  obtain ⟨a, d₁, run, read⟩ := word_run token d
  rw [run, Except.ok.injEq, Prod.mk.injEq]
  constructor
  · rintro ⟨rfl, rfl⟩
    cases read with
    | number reads => exact ⟨reads, rfl⟩
  · rintro ⟨reads, rfl⟩
    cases read with
    | number reads' =>
      rw [reads] at reads'
      cases reads'
      exact ⟨rfl, rfl⟩
    | digits none => rw [reads] at none; cases none
    | bare none => rw [reads] at none; cases none
    | keyword none => rw [reads] at none; cases none

/-- The number of a word is not negative, nor NaN. -/
theorem unsigned_of_number? (reads : number? token = some n) : n.Unsigned := by
  unfold number? at reads
  split at reads
  · cases reads
    exact Double.unsigned_ofBits (Nat.le_refl _)
  · split at reads
    · split at reads
      · exact Double.unsigned_readDecimal? reads
      · obtain ⟨m, -, small⟩ := Option.bind_eq_some_iff.1 reads
        split at small
        · cases small
          exact Double.unsigned_ofRatio _ _
        · cases small
    · cases reads

/-- A row of digits for an integer beyond 64 bits is a bare word. -/
theorem word_of_large_digits {text : List Char} (digits : text.all Digits.isDigit = true)
    (large : 2 ^ 63 ≤ Digits.value text) (d : Draft) :
    StateT.run (word text) d = .ok (.bare (String.ofList text), d) := by
  have some : text ≠ [] := by
    rintro rfl
    exact absurd large (by decide)
  have number : number? text = none := by
    rw [number?_of_all_isDigit some digits, if_neg (Nat.not_lt_of_le large)]
  have digit : (text.head?.map Digits.isDigit).getD false = true := by
    cases text with
    | nil => exact absurd rfl some
    | cons c s => exact List.all_eq_true.1 digits c List.mem_cons_self
  unfold word
  rw [number]
  simp only []
  rw [if_pos digit]
  rfl

/-- The text of a number that a word stands for is read as this number if it is infinity or below
`2 ^ 63`, and as a bare word if not. -/
theorem word_format (reads : StateT.run (word token) d = .ok (.number n, d')) (d₁ : Draft) :
    StateT.run (word n.format.toList) d₁ =
      .ok (if n = .infinity ∨ n.lt (.ofNat (2 ^ 63)) = true then .number n else .bare n.format,
        d₁) := by
  have unsigned := unsigned_of_number? (word_eq_number.1 reads).1
  split
  · next small =>
    apply word_eq_number.2
    refine ⟨number?_format ?_, rfl⟩
    rcases small with infinite | below
    · exact .inl infinite
    · exact .inr ⟨unsigned.1, below⟩
  · next above =>
    rw [not_or, Bool.not_eq_true] at above
    have finite := unsigned.finite above.1
    have large := Double.le_magnitude_of_not_lt finite unsigned.1 above.2
    have digits := Double.all_isDigit_format large finite unsigned.1
    have value := Double.le_value_format large finite unsigned.1
    rw [word_of_large_digits digits value, String.ofList_toList]

/-- Half a number is printed without the zero that was written at its end. -/
theorem word_format_half :
    StateT.run (word "2.50".toList) {} = .ok (.number (.ofRatio false 5 2), {}) ∧
      StateT.run (word (Double.ofRatio false 5 2).format.toList) {} =
        .ok (.number (.ofRatio false 5 2), {}) := by
  have reads : StateT.run (word "2.50".toList) {} = .ok (.number (.ofRatio false 5 2), {}) :=
    word_eq_number.2 ⟨by decide +kernel, rfl⟩
  have printed := word_format reads {}
  rw [if_pos (by decide +kernel)] at printed
  exact ⟨reads, printed⟩

/-- The largest integer of 64 bits is rounded to `2 ^ 63`, and what that is printed as is a bare
word. -/
theorem word_format_limit :
    StateT.run (word "9223372036854775807".toList) {} = .ok (.number (.ofNat (2 ^ 63)), {}) ∧
      StateT.run (word (Double.ofNat (2 ^ 63)).format.toList) {} =
        .ok (.bare "9223372036854776000", {}) := by
  refine ⟨word_eq_number.2 ⟨by decide +kernel, rfl⟩, ?_⟩
  have printed : (Double.ofNat (2 ^ 63)).format = "9223372036854776000" := by decide +kernel
  rw [printed, word_of_large_digits (by decide +kernel) (by decide +kernel), String.ofList_toList]

end TagRules.Compile
