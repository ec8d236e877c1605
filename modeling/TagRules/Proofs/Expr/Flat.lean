import TagRules.Proofs.Expr.Parts
import TagRules.Proofs.Expr.Run
import TagRules.Proofs.Expr.Scan

/-!
# Flat texts

Once parentheses are cut out, what is left of a printed expression is made of names, placeholders
and separators, without quotes and comparisons. Such texts are cut at their separators and nowhere
else.
-/

namespace TagRules

/-- A text without quotes in which a separator cannot begin. -/
def Whole (separator s : List Char) : Prop :=
  ∀ c ∈ s, isQuote c = false ∧ separator.head? ≠ some c

/-- A text is kept in one part if the separator does not begin in it. -/
theorem splitFrom_whole {separator s : List Char} (whole : Whole separator s)
    (some : separator ≠ []) {q : Quote} (outside : q.inside = false) (rest : List Char) :
    splitFrom separator q 0 (s ++ rest) =
      s.foldr consFirst (splitFrom separator (q.after s) 0 rest) := by
  induction s generalizing q with
  | nil => rfl
  | cons c s ih =>
    obtain ⟨quote, other⟩ := whole c List.mem_cons_self
    have next := (Quote.next_of_not_isQuote quote).trans outside
    have kept : separator.isPrefixOf (c :: (s ++ rest)) = false := by
      cases separator with
      | nil => exact absurd rfl some
      | cons d separator =>
        have : (d == c) = false := by simpa using other
        rw [List.isPrefixOf, this, Bool.false_and]
    rw [List.cons_append, splitFrom]
    simp only [next, kept]
    rw [if_neg (by simp), List.foldr_cons]
    exact congrArg (consFirst c) (ih (fun d mem => whole d (List.mem_cons_of_mem _ mem)) next)

theorem Whole.after_inside {separator s : List Char} (whole : Whole separator s) {q : Quote}
    (outside : q.inside = false) : (q.after s).inside = false := by
  induction s generalizing q with
  | nil => exact outside
  | cons c s ih =>
    exact ih (fun d mem => whole d (List.mem_cons_of_mem _ mem))
      ((Quote.next_of_not_isQuote (whole c List.mem_cons_self).1).trans outside)

/-- The rest of a separator is skipped. -/
theorem splitFrom_skip (separator : List Char) {front : List Char}
    (noQuote : ∀ c ∈ front, isQuote c = false)
    {q : Quote} (outside : q.inside = false) (rest : List Char) :
    ∃ q' : Quote, q'.inside = false ∧
      splitFrom separator q front.length (front ++ rest) = splitFrom separator q' 0 rest := by
  induction front generalizing q with
  | nil => exact ⟨q, outside, rfl⟩
  | cons c front ih =>
    have next := (Quote.next_of_not_isQuote (noQuote c List.mem_cons_self)).trans outside
    exact ih (fun d mem => noQuote d (List.mem_cons_of_mem _ mem)) next

/-- Parts that hold no separator are what their join is split into. -/
theorem splitFrom_joinWith {c : Char} {separator : List Char}
    (noQuote : ∀ d ∈ c :: separator, isQuote d = false) {parts : List (List Char)}
    (some : parts ≠ []) (whole : ∀ part ∈ parts, Whole (c :: separator) part) {q : Quote}
    (outside : q.inside = false) :
    splitFrom (c :: separator) q 0 (joinWith (c :: separator) parts) = parts := by
  induction parts generalizing q with
  | nil => exact absurd rfl some
  | cons part parts ih =>
    have first := whole part List.mem_cons_self
    have cut := splitFrom_whole first (List.cons_ne_nil _ _) outside
    cases parts with
    | nil =>
      have alone := cut []
      rw [List.append_nil, splitFrom, foldr_consFirst, List.append_nil] at alone
      exact alone
    | cons next parts =>
      have next' := (Quote.next_of_not_isQuote (noQuote c List.mem_cons_self)).trans
        (first.after_inside outside)
      obtain ⟨q', outside', skipped⟩ := splitFrom_skip (c :: separator)
        (fun d mem => noQuote d (List.mem_cons_of_mem _ mem)) next'
        (joinWith (c :: separator) (next :: parts))
      have rest := ih (List.cons_ne_nil _ _) (fun p mem => whole p (List.mem_cons_of_mem _ mem))
        outside'
      have front : (c :: separator).isPrefixOf
          (c :: (separator ++ joinWith (c :: separator) (next :: parts))) = true := by
        simp
      rw [joinWith, List.append_assoc, cut, List.cons_append, splitFrom]
      · simp only [next', front]
        rw [if_pos (by simp), List.length_cons, Nat.add_sub_cancel, skipped, rest, foldr_consFirst,
          List.append_nil]
      · exact List.cons_ne_nil _ _

/-- A character that is neither a quote nor part of an operator. -/
def Neutral (c : Char) : Prop :=
  isQuote c = false ∧ c ∉ ['|', '&', '^', '=', '<', '>']

instance (c : Char) : Decidable (Neutral c) :=
  inferInstanceAs (Decidable (_ ∧ _))

/-- No comparison begins in a text of neutral characters. -/
theorem comparisonAt?_eq_none {c : Char} {s : List Char} (neutral : ∀ d ∈ c :: s, Neutral d) :
    comparisonAt? (c :: s) = none := by
  refine List.findSome?_eq_none_iff.2 fun (operator, function) mem => ?_
  have signs : ∀ p ∈ Builtin.comparisons, ∃ d ∈ p.1, ¬Neutral d := by decide
  obtain ⟨d, inside, sign⟩ := signs _ mem
  have absent : operator.isPrefixOf (c :: s) = false := by
    cases front : operator.isPrefixOf (c :: s) with
    | false => rfl
    | true => exact absurd (neutral d ((List.isPrefixOf_iff_prefix.1 front).subset inside)) sign
  simp only [afterFront?, absent, Bool.false_eq_true, if_false]

theorem comparison?_eq_none {s : List Char} (neutral : ∀ c ∈ s, Neutral c) :
    comparison? s = none := by
  unfold comparison?
  generalize ([] : List Char) = before
  generalize ({} : Quote) = q
  induction s generalizing q before with
  | nil => rfl
  | cons c s ih =>
    have rest (q : Quote) (before : List Char) : comparisonFrom q before s = none :=
      ih (fun d mem => neutral d (List.mem_cons_of_mem _ mem)) before q
    rw [comparisonFrom]
    simp only [comparisonAt?_eq_none neutral, rest, ite_self]

namespace Compile

theorem mem_joinWith {separator : List Char} {parts : List (List Char)} {c : Char}
    (h : c ∈ joinWith separator parts) : c ∈ separator ∨ ∃ part ∈ parts, c ∈ part := by
  induction parts with
  | nil => cases h
  | cons part parts ih =>
    cases parts with
    | nil => exact .inr ⟨part, List.mem_cons_self, h⟩
    | cons next parts =>
      rw [joinWith, List.mem_append, List.mem_append] at h
      · rcases h with (first | sep) | rest
        · exact .inr ⟨part, List.mem_cons_self, first⟩
        · exact .inl sep
        · rcases ih rest with sep | ⟨p, mem, inside⟩
          · exact .inl sep
          · exact .inr ⟨p, List.mem_cons_of_mem _ mem, inside⟩
      · exact List.cons_ne_nil _ _

/-- A text is one part if the separator begins nowhere outside of its literals. -/
theorem splitAt_of_outside {c : Char} (separator : List Char) {s : List Char}
    (plain : Quote.Outside (· ≠ c) {} s) : splitAt (c :: separator) s = [s] :=
  splitFrom_of_uncut plain.uncut

/-- A text in which the separator does not begin has one part. -/
theorem splitAt_of_whole {c : Char} {separator s : List Char} (whole : Whole (c :: separator) s) :
    splitAt (c :: separator) s = [s] := by
  refine splitAt_of_outside separator (Quote.outside_of_forall fun d mem same => ?_)
  exact (whole d mem).2 (congrArg some same.symm)

theorem or_mem : (['|', '|'], Expr.or) ∈ combinations :=
  List.mem_cons_self

theorem and_mem : (['&', '&'], Expr.and) ∈ combinations :=
  List.mem_cons_of_mem _ List.mem_cons_self

theorem xor_mem : (['^'], Expr.xor) ∈ combinations :=
  List.mem_cons_of_mem _ (List.mem_cons_of_mem _ List.mem_cons_self)

/-- The characters of a separator and of those that bind looser. -/
def signs (separator : List Char) : List Char :=
  ((combinations.map (·.1)).takeWhile (· ≠ separator)).flatten ++ separator

theorem not_mem_signs {separator : List Char} {combine : List Expr → Expr}
    (mem : (separator, combine) ∈ combinations) {c : Char} (neutral : Neutral c) :
    isQuote c = false ∧ c ∉ signs separator := by
  refine ⟨neutral.1, fun inside => ?_⟩
  cases Combination.of_mem mem <;>
    simp [signs, combinations] at inside <;> rcases inside with rfl | rfl | rfl <;>
      exact absurd neutral (by decide)

/-- The parts between the separators of a combination are what it is split into, if neither that
separator nor one that binds looser begins in them. -/
theorem combination?_joinWith {separator : List Char} {combine : List Expr → Expr}
    (mem : (separator, combine) ∈ combinations) {parts : List (List Char)}
    (several : 2 ≤ parts.length)
    (plain : ∀ part ∈ parts, ∀ c ∈ part, isQuote c = false ∧ c ∉ signs separator) :
    combination? (joinWith separator parts) = some (separator, combine, parts) := by
  have some : parts ≠ [] := by
    rintro rfl
    simp at several
  have whole {c : Char} (separator' : List Char) (sign : c ∈ signs separator) :
      ∀ part ∈ parts, Whole (c :: separator') part := by
    intro part mem d inside
    refine ⟨(plain part mem d inside).1, fun same => ?_⟩
    exact (plain part mem d inside).2 (Option.some.inj same ▸ sign)
  have joined {c d : Char} {front back : List Char} (sign : c ∈ signs separator)
      (other : ∀ x ∈ d :: back, isQuote x = false ∧ c ≠ x) :
      splitAt (c :: front) (joinWith (d :: back) parts) = [joinWith (d :: back) parts] := by
    refine splitAt_of_whole fun x inside => ?_
    rcases mem_joinWith inside with sep | ⟨part, mem, inside⟩
    · exact ⟨(other x sep).1, fun same => (other x sep).2 (Option.some.inj same)⟩
    · exact whole front sign part mem x inside
  cases Combination.of_mem mem with
  | or =>
    have cut : splitAt ['|', '|'] (joinWith ['|', '|'] parts) = parts :=
      splitFrom_joinWith (by decide) some (whole ['|'] (by decide)) rfl
    simp only [combination?, combinations, List.findSome?_cons, cut, several, if_true]
  | and =>
    have cut : splitAt ['&', '&'] (joinWith ['&', '&'] parts) = parts :=
      splitFrom_joinWith (by decide) some (whole ['&'] (by decide)) rfl
    have none : splitAt ['|', '|'] (joinWith ['&', '&'] parts) = _ :=
      joined (by decide) (by decide)
    simp [combination?, combinations, cut, several, none]
  | xor =>
    have cut : splitAt ['^'] (joinWith ['^'] parts) = parts :=
      splitFrom_joinWith (by decide) some (whole [] (by decide)) rfl
    have none : splitAt ['|', '|'] (joinWith ['^'] parts) = _ := joined (by decide) (by decide)
    have none' : splitAt ['&', '&'] (joinWith ['^'] parts) = _ := joined (by decide) (by decide)
    simp [combination?, combinations, cut, several, none, none']

/-- A text is no combination if no separator begins outside of its literals. -/
theorem combination?_eq_none {s : List Char} (plain : Quote.Outside (· ∉ signs ['^']) {} s) :
    combination? s = none := by
  have whole {c : Char} (separator : List Char) (sign : c ∈ signs ['^']) :
      splitAt (c :: separator) s = [s] :=
    splitAt_of_outside separator (plain.imp fun d other same => other (same ▸ sign))
  simp [combination?, combinations, whole ['|'] (show '|' ∈ _ by decide),
    whole ['&'] (show '&' ∈ _ by decide), whole [] (show '^' ∈ _ by decide)]

/-- A neutral text is no combination. -/
theorem combination?_of_neutral {s : List Char} (neutral : ∀ c ∈ s, Neutral c) :
    combination? s = none :=
  combination?_eq_none (Quote.outside_of_forall fun c mem =>
    (not_mem_signs xor_mem (neutral c mem)).2)

/-- A name and a key in parentheses. -/
theorem named?_append {name key : List Char} (some : name ≠ []) (noParen : '(' ∉ name)
    (trimmed : Text.trim key = key) :
    named? (name ++ '(' :: key ++ [')']) = .some (name, key) := by
  have letters : ∀ c ∈ name, decide (c ≠ '(') = true := by
    intro c mem
    exact decide_eq_true fun same => noParen (same ▸ mem)
  unfold named?
  rw [List.append_assoc, List.takeWhile_append_of_pos letters,
    List.dropWhile_append_of_pos letters]
  simp [some, trimmed]

theorem placeholder?_placeholder (n : Nat) : placeholder? (placeholder n) = some n := by
  have digits := Digits.all_isDigit_ofNat n
  have reads := Digits.read?_ofNat n
  have last : (Digits.ofNat n ++ ['\x7d']).getLast? = some '\x7d' := List.getLast?_concat
  have front : (Digits.ofNat n ++ ['\x7d']).dropLast = Digits.ofNat n := List.dropLast_concat
  unfold placeholder? placeholder
  simp only [List.cons_append, last, front]
  split
  · next plus =>
    rw [plus] at digits
    cases digits
  · exact reads

end Compile

end TagRules
