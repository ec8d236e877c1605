import TagRules.Proofs.Expr.Lossless

/-!
# The leftmost comparison

A comparison is cut where the first operator outside of literals stands, of those with text on both sides
(`Leftmost`, `comparison_leftmost`). At each place the longer operators come first, but one with nothing
behind it is passed over for its own first sign: a text that ends in `>=` or `<=` is cut within the operator
(`comparison_halved`). That is the only way in which one is cut.
-/

namespace TagRules

variable {q : Quote} {s before left right front back operator : List Char} {c : Char} {f : Builtin}

/-! ### A comparison at the start of a text -/

/-- No comparison begins with a character that no operator begins with. -/
theorem comparisonAt?_of_head (other : c ∉ ['=', '!', '<', '>']) :
    comparisonAt? (c :: s) = none := by
  refine List.findSome?_eq_none_iff.2 fun (operator, function) mem => ?_
  have heads : ∀ p ∈ Builtin.comparisons, ∃ d rest, p.1 = d :: rest ∧ d ∈ ['=', '!', '<', '>'] := by
    simp [Builtin.comparisons]
  obtain ⟨d, rest, rfl, sign⟩ := heads _ mem
  have differs : d ≠ c := by
    rintro rfl
    exact other sign
  simp [afterFront?, differs]

/-- No comparison begins with a quote. -/
theorem comparisonAt?_of_isQuote (quote : isQuote c = true) : comparisonAt? (c :: s) = none := by
  refine comparisonAt?_of_head fun sign => ?_
  have signs : ∀ d ∈ ['=', '!', '<', '>'], isQuote d = false := by decide
  rw [signs c sign] at quote
  cases quote

/-- An operator with nothing behind it is no comparison. -/
theorem afterFront?_eq_some {tail : List Char} (h : afterFront? front s = some tail) :
    s = front ++ tail := by
  unfold afterFront? at h
  rw [Option.ite_none_right_eq_some] at h
  obtain ⟨begins, same⟩ := h
  obtain ⟨tail', rfl⟩ := List.isPrefixOf_iff_prefix.1 begins
  rw [List.drop_left] at same
  rw [Option.some.inj same]

/-- The longer operator comes first where something stands behind it. -/
theorem comparisonAt?_longer (some : right ≠ []) :
    comparisonAt? ('>' :: '=' :: right) = .some (.isGE, right) ∧
      comparisonAt? ('<' :: '=' :: right) = .some (.isLE, right) := by
  obtain ⟨c, rest, rfl⟩ := List.exists_cons_of_ne_nil some
  simp [comparisonAt?, Builtin.comparisons, afterFront?]

/-- A comparison is an operator with something behind it. It is only the first sign of a longer operator if
this one ends the text. -/
theorem comparisonAt?_eq_some (h : comparisonAt? s = some (f, right)) :
    ∃ operator, (operator, f) ∈ Builtin.comparisons ∧ right ≠ [] ∧ s = operator ++ right ∧
      (f = .isGT ∨ f = .isLT → right.head? = some '=' → right = ['=']) := by
  obtain ⟨⟨operator, f'⟩, mem, here⟩ := List.exists_of_findSome?_eq_some h
  simp only at here
  split at here
  · next c rest cut =>
    cases here
    refine ⟨operator, mem, List.cons_ne_nil _ _, afterFront?_eq_some cut, fun short equal => ?_⟩
    cases Option.some.inj equal
    by_contra longer
    have some : rest ≠ [] := fun empty => longer (by rw [empty])
    obtain ⟨ge, le⟩ := comparisonAt?_longer some
    have form := afterFront?_eq_some cut
    simp only [Builtin.comparisons, List.mem_cons, Prod.mk.injEq, List.not_mem_nil, or_false] at mem
    rcases short with rfl | rfl
    · have sign : operator = ['>'] := by simpa using mem
      rw [form, sign, List.singleton_append, ge] at h
      cases h
    · have sign : operator = ['<'] := by simpa using mem
      rw [form, sign, List.singleton_append, le] at h
      cases h
  · cases here

/-- Where no comparison is, any operator has nothing behind it. -/
theorem eq_of_comparisonAt?_eq_none (h : comparisonAt? s = none)
    (mem : (operator, f) ∈ Builtin.comparisons) (begins : operator <+: s) : s = operator := by
  obtain ⟨tail, rfl⟩ := begins
  have none := List.findSome?_eq_none_iff.1 h _ mem
  have cut : afterFront? operator (operator ++ tail) = some tail := by
    simp [afterFront?]
  cases tail with
  | nil => exact List.append_nil _
  | cons c rest =>
    simp only [cut] at none
    cases none

/-! ### The scan -/

/-- A place that the scan passes over without a look has no comparison, unless it is the first of the text
or lies within a literal. -/
theorem comparisonAt?_of_passed (passed : ((q.next c).inside || before.isEmpty) = true)
    (started : before ≠ []) (outside : q.inside = false) : comparisonAt? (c :: s) = none := by
  have opens : (q.next c).inside = true := by simpa [started] using passed
  refine comparisonAt?_of_isQuote ?_
  cases quote : isQuote c with
  | true => rfl
  | false =>
    rw [Quote.next, quote] at opens
    simp [outside] at opens

/-- A scan without result has passed no comparison. -/
theorem comparisonFrom_eq_none (h : comparisonFrom q before s = none) (split : s = front ++ back)
    (started : before ≠ [] ∨ front ≠ []) (outside : (q.after front).inside = false) :
    comparisonAt? back = none := by
  induction s generalizing q before front with
  | nil =>
    rw [(List.append_eq_nil_iff.1 split.symm).2]
    rfl
  | cons c s ih =>
    rw [comparisonFrom] at h
    -- A place in the rest is known from the scan of the rest; this place is passed, or looked at in vain.
    have place (here : front = [] → comparisonAt? (c :: s) = none)
        (later : comparisonFrom (q.next c) (c :: before) s = none) : comparisonAt? back = none := by
      cases front with
      | nil =>
        rw [List.nil_append] at split
        exact split ▸ here rfl
      | cons d front =>
        obtain ⟨rfl, rest⟩ := List.cons.inj split
        exact ih later rest (.inl (List.cons_ne_nil _ _)) outside
    split at h
    · next passed =>
      refine place (fun empty => ?_) h
      subst empty
      exact comparisonAt?_of_passed passed (started.resolve_right fun some => some rfl) outside
    · split at h
      · cases h
      · next none => exact place (fun _ => none) h

/-- A scan stops at the first comparison that it comes to. -/
theorem comparisonFrom_eq_some (h : comparisonFrom q before s = some (left, f, right)) :
    ∃ passed rest, s = passed ++ rest ∧ left = before.reverse ++ passed ∧ left ≠ [] ∧
      comparisonAt? rest = some (f, right) ∧ (q.after passed).inside = false ∧
      ∀ front back, passed = front ++ back → back ≠ [] → before ≠ [] ∨ front ≠ [] →
        (q.after front).inside = false → comparisonAt? (back ++ rest) = none := by
  induction s generalizing q before with
  | nil => cases h
  | cons c s ih =>
    rw [comparisonFrom] at h
    have later (here : before ≠ [] → q.inside = false → comparisonAt? (c :: s) = none)
        (found : comparisonFrom (q.next c) (c :: before) s = some (left, f, right)) :
        ∃ passed rest, c :: s = passed ++ rest ∧ left = before.reverse ++ passed ∧ left ≠ [] ∧
          comparisonAt? rest = some (f, right) ∧ (q.after passed).inside = false ∧
          ∀ front back, passed = front ++ back → back ≠ [] → before ≠ [] ∨ front ≠ [] →
            (q.after front).inside = false → comparisonAt? (back ++ rest) = none := by
      obtain ⟨passed, rest, rfl, form, some, stop, outside, first⟩ := ih found
      refine ⟨c :: passed, rest, rfl, by simpa using form, some, stop, outside, ?_⟩
      intro front back split some' started outside'
      cases front with
      | nil =>
        rw [List.nil_append] at split
        rw [← split]
        exact here (started.resolve_right fun some => some rfl) outside'
      | cons d front =>
        obtain ⟨rfl, form⟩ := List.cons.inj split
        exact first front back form some' (.inl (List.cons_ne_nil _ _)) outside'
    split at h
    · next passed => exact later (comparisonAt?_of_passed passed) h
    · next looked =>
      split at h
      · next function tail found =>
        cases h
        simp only [Bool.or_eq_true, List.isEmpty_iff, not_or, Bool.not_eq_true] at looked
        have plain : isQuote c = false := by
          cases quote : isQuote c with
          | false => rfl
          | true =>
            rw [comparisonAt?_of_isQuote quote] at found
            cases found
        have outside : q.inside = false := by
          rw [← looked.1, Quote.next, plain]
          rfl
        refine ⟨[], c :: s, rfl, (List.append_nil _).symm, by simpa using looked.2, found, outside, ?_⟩
        intro front back split some
        exact absurd (List.append_eq_nil_iff.1 split.symm).2 some
      · next none => exact later (fun _ _ => none) h

/-! ### The cut -/

/-- A comparison stands between two texts, outside of literals. -/
theorem comparison?_eq_some (h : comparison? s = some (left, f, right)) : ∃ operator,
    (operator, f) ∈ Builtin.comparisons ∧ left ≠ [] ∧ right ≠ [] ∧ s = left ++ (operator ++ right) ∧
      (Quote.after {} left).inside = false := by
  obtain ⟨passed, rest, rfl, rfl, some, stop, outside, -⟩ := comparisonFrom_eq_some h
  obtain ⟨operator, mem, some', rfl, -⟩ := comparisonAt?_eq_some stop
  exact ⟨operator, mem, some, some', rfl, outside⟩

/-- A text is cut at its first comparison with text on both sides. -/
structure Leftmost (text left : List Char) (f : Builtin) (right : List Char) : Prop where
  /-- The operator of the function stands between the two sides. -/
  parts : ∃ operator, (operator, f) ∈ Builtin.comparisons ∧ text = left ++ (operator ++ right)
  before : left ≠ []
  behind : right ≠ []
  /-- The operator stands outside of literals. -/
  outside : (Quote.after {} left).inside = false
  /-- After its first character, the left side has no operator outside of literals. -/
  first : ∀ front back, left = front ++ back → front ≠ [] → (Quote.after {} front).inside = false →
    ∀ p ∈ Builtin.comparisons, ¬p.1 <+: back
  /-- The operator is not the first sign of a longer one, unless the longer one ends the text. -/
  whole : f = .isGT ∨ f = .isLT → right.head? = some '=' → right = ['=']

/-- A comparison that is found is the leftmost one, and none is missed. -/
theorem comparison_leftmost (text : List Char) :
    (∀ left f right, comparison? text = some (left, f, right) → Leftmost text left f right) ∧
    (comparison? text = none → ∀ left operator f right, (operator, f) ∈ Builtin.comparisons →
      text = left ++ (operator ++ right) → left ≠ [] → right ≠ [] →
        (Quote.after {} left).inside = true) := by
  refine ⟨fun left f right found => ?_, fun none left operator f right mem split some some' => ?_⟩
  · obtain ⟨passed, rest, rfl, rfl, some, stop, outside, first⟩ := comparisonFrom_eq_some found
    obtain ⟨operator, mem, some', rfl, whole⟩ := comparisonAt?_eq_some stop
    refine ⟨⟨operator, mem, rfl⟩, some, some', outside, ?_, whole⟩
    intro front back split some'' outside' p mem' begins
    have back' : back ≠ [] := by
      rintro rfl
      have signs : ∀ p ∈ Builtin.comparisons, p.1 ≠ [] := by decide
      exact signs p mem' (List.prefix_nil.1 begins)
    have passed := first front back split back' (.inr some'') outside'
    have whole := eq_of_comparisonAt?_eq_none passed mem'
      (begins.trans (List.prefix_append back _))
    have length := begins.length_le
    rw [← whole, List.length_append, List.length_append] at length
    have := List.length_pos_iff.2 some'
    omega
  · cases outside : (Quote.after {} left).inside with
    | true => rfl
    | false =>
      have passed := comparisonFrom_eq_none none split (.inr some) outside
      have short := eq_of_comparisonAt?_eq_none passed mem (List.prefix_append _ _)
      exact absurd (List.append_right_eq_self.1 short) some'

/-- An operator within a literal is passed over, and so is one at the start. -/
theorem quoted_leftmost :
    let text := ">\"a>=b\">=size".toList
    comparison? text = some (">\"a>=b\"".toList, .isGE, "size".toList) ∧
      Leftmost text ">\"a>=b\"".toList .isGE "size".toList := by
  have found : comparison? ">\"a>=b\">=size".toList =
      some (">\"a>=b\"".toList, .isGE, "size".toList) := by decide
  exact ⟨found, (comparison_leftmost _).1 _ _ _ found⟩

/-- An operator of two signs that ends a text is cut in half, and the text is accepted, while one of a single
sign is refused there. -/
theorem comparison_halved :
    comparison? "size>=".toList = some ("size".toList, .isGT, ['=']) ∧
      (compile none "size>=").map (·.expr.canonical) = .ok "isGT(size,=)" ∧
      comparison? "size>".toList = none ∧ comparison? "size==".toList = none ∧
      (compile none "size>").map (·.expr.canonical) = .error (.unsupported "size>") := by
  decide +kernel

end TagRules
