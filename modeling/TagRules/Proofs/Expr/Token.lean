import TagRules.Proofs.Expr.Flat
import TagRules.Proofs.Expr.Formed
import TagRules.Proofs.Expr.Invariant
import TagRules.Proofs.Number.RoundTrip

/-!
# Words that are read again

The texts of numbers, keywords and other words are made of characters that no cut looks at, and each
is read as what it is the text of.
-/

namespace TagRules

/-- A number that an expression can hold: infinity, or one below the limit of integers that is not
negative, nor the negative zero. -/
def Double.Writable (n : Double) : Prop :=
  n = .infinity ∨ n.negative = false ∧ n.lt (.ofNat (2 ^ 63)) = true

instance (n : Double) : Decidable n.Writable :=
  inferInstanceAs (Decidable (_ ∨ _))

/-- A word that is cut out whole and read as an argument. -/
structure Compile.Token (token : List Char) (a : Operand) : Prop where
  closed : Closed token
  bare : Bare token
  reads : ∀ d, ∃ d', Word d token a d'

/-- A separator begins with an ordinary character, and all of its characters are. -/
theorem Compile.separator_eq {separator : List Char} {combine : List Expr → Expr}
    (mem : (separator, combine) ∈ combinations) :
    ∃ c back, separator = c :: back ∧
      ∀ d ∈ c :: back, Ordinary d ∧ Text.isLetterOrDigit d = false := by
  cases Combination.of_mem mem <;> exact ⟨_, _, rfl, by decide⟩

/-- A letter or digit of a name. -/
def Letter (c : Char) : Prop :=
  Ordinary c ∧ Neutral c ∧ c ∉ [',', '{', '!'] ∧ Text.isLetterOrDigit c = true

instance (c : Char) : Decidable (Letter c) :=
  inferInstanceAs (Decidable (_ ∧ _))

/-- A character of a word: it has no meaning to the cuts. -/
def InWord (c : Char) : Prop :=
  Ordinary c ∧ Neutral c ∧ c ∉ [',', '{', '!']

instance (c : Char) : Decidable (InWord c) :=
  inferInstanceAs (Decidable (_ ∧ _))

/-- Names of functions are made of letters and digits. -/
theorem Builtin.letters {name : String} {f : Builtin} (named : ofName? name = some f) :
    name.toList ≠ [] ∧ ∀ c ∈ name.toList, Letter c := by
  have all : ∀ f ∈ all, ∀ name ∈ f.names, name.toList ≠ [] ∧ ∀ c ∈ name.toList, Letter c := by
    decide +kernel
  have mem := List.find?_some named
  exact all f f.mem_all name (List.contains_iff_mem.1 mem)

namespace Compile

/-- What a digit is, besides a letter or digit. -/
theorem ordinary_of_isDigit {c : Char} (digit : Digits.isDigit c = true) :
    Ordinary c ∧ Neutral c ∧ c ∉ [',', '{', '(', '.', '∞'] ∧ c.toLower = c := by
  simp only [Digits.isDigit, Bool.and_eq_true, decide_eq_true_eq] at digit
  have bounds : 48 ≤ c.toNat ∧ c.toNat ≤ 57 := digit
  have same : c = Char.ofNat c.toNat := (Char.ofNat_toNat c).symm
  rw [same]
  generalize c.toNat = n at bounds
  obtain ⟨low, high⟩ := bounds
  have all : ∀ k : Fin 10, Ordinary (Char.ofNat (48 + k)) ∧ Neutral (Char.ofNat (48 + k)) ∧
      Char.ofNat (48 + k) ∉ [',', '{', '(', '.', '∞'] ∧
      (Char.ofNat (48 + k)).toLower = Char.ofNat (48 + k) := by decide
  have here := all ⟨n - 48, by omega⟩
  simpa [Nat.add_sub_cancel' low] using here

theorem inWord_of_isDigit {c : Char} (digit : Digits.isDigit c = true) : InWord c := by
  obtain ⟨ordinary, neutral, other, -⟩ := ordinary_of_isDigit digit
  simp only [List.mem_cons, List.not_mem_nil, or_false, not_or] at other
  refine ⟨ordinary, neutral, ?_⟩
  simp only [List.mem_cons, List.not_mem_nil, or_false, not_or]
  refine ⟨other.1, other.2.1, ?_⟩
  rintro rfl
  exact absurd digit (by decide)

/-- A letter of a word may have either case. -/
theorem inWord_of_toLower {c : Char} (plain : InWord c.toLower) : InWord c := by
  unfold Char.toLower at plain
  split at plain
  · next upper =>
    have bounds : 65 ≤ c.toNat ∧ c.toNat ≤ 90 := upper
    have all : ∀ k : Fin 26, InWord (Char.ofNat (65 + k)) := by decide
    have here := all ⟨c.toNat - 65, by omega⟩
    have same : 65 + (c.toNat - 65) = c.toNat := by omega
    rw [← Char.ofNat_toNat c]
    simpa only [same] using here
  · exact plain

theorem inWord_of_read? {s : List Char} {n : Nat} (reads : Digits.read? s = some n) :
    s ≠ [] ∧ ∀ c ∈ s, InWord c := by
  unfold Digits.read? at reads
  split at reads
  · next digits => exact ⟨digits.1, fun c mem => inWord_of_isDigit (List.all_eq_true.1 digits.2 c mem)⟩
  · cases reads

/-- The digits after a point, and what follows them. -/
def places : List Char → List Char × List Char
  | '.' :: r => (r.takeWhile Digits.isDigit, r.dropWhile Digits.isDigit)
  | r => ([], r)

/-- A decimal numeral is made of digits, a point and an exponent. -/
theorem inWord_of_readDecimal? {s : List Char} {x : Double}
    (reads : Double.readDecimal? s = some x) : ∀ c ∈ s, InWord c := by
  have digits (s : List Char) (after : ∀ c ∈ s.dropWhile Digits.isDigit, InWord c) :
      ∀ c ∈ s, InWord c := by
    rw [← List.takeWhile_append_dropWhile (p := Digits.isDigit) (l := s)]
    exact List.forall_mem_append.2
      ⟨fun c mem => inWord_of_isDigit (List.mem_takeWhile_imp mem), after⟩
  have point (rest : List Char) (after : ∀ c ∈ (places rest).2, InWord c) : ∀ c ∈ rest, InWord c := by
    unfold places at after
    split at after
    · exact List.forall_mem_cons.2 ⟨by decide, digits _ after⟩
    · exact after
  refine digits s (point _ fun c mem => ?_)
  simp only [Double.readDecimal?] at reads
  split at reads
  · next none =>
    have absent : c ∈ [] := none.subst (motive := (c ∈ ·)) mem
    cases absent
  · next e r some =>
    have here : c ∈ e :: r := some.subst (motive := (c ∈ ·)) mem
    split at reads
    · next letter =>
      have plain : ∀ c ∈ r, InWord c := by
        split at reads
        all_goals obtain ⟨n, number, -⟩ := Option.bind_eq_some_iff.1 reads
        · exact List.forall_mem_cons.2 ⟨by decide, (inWord_of_read? number).2⟩
        · exact List.forall_mem_cons.2 ⟨by decide, (inWord_of_read? number).2⟩
        · exact (inWord_of_read? number).2
      rcases List.mem_cons.1 here with rfl | here
      · simp only [Bool.or_eq_true, decide_eq_true_eq] at letter
        rcases letter with rfl | rfl <;> decide
      · exact plain c here
    · cases reads

theorem closed_of_ordinary {s : List Char} (ordinary : ∀ c ∈ s, Ordinary c ∧ c ≠ ',') :
    Closed s := by
  have passes : Quote.pass false {} 0 (s ++ []) = Quote.pass false {} 0 [] :=
    Quote.pass_ordinary (fun c mem => (ordinary c mem).1)
      (fun mem => absurd rfl (ordinary ',' mem).2) []
  rw [List.append_nil] at passes
  exact ⟨false, passes⟩

/-- Nothing that begins with a digit is a word for infinity. -/
theorem not_infinity {c : Char} {s : List Char} (digit : Digits.isDigit c = true) :
    ¬(c :: s = ['∞'] ∨ Text.eqIgnoringCase (c :: s) "infinity".toList = true) := by
  obtain ⟨-, -, other, lower⟩ := ordinary_of_isDigit digit
  rintro (same | same)
  · cases same
    exact other (by decide)
  · have first : c.toLower = 'i' := by
      have same : (c :: s).map Char.toLower = "infinity".toList.map Char.toLower := by
        simpa [Text.eqIgnoringCase, Text.lowerAscii] using same
      exact Option.some.inj (congrArg List.head? same)
    rw [lower] at first
    subst first
    exact absurd digit (by decide)

/-- What a text of digits, with or without a point, is read as. -/
theorem number?_of_isDigit {c : Char} {s : List Char} (digit : Digits.isDigit c = true) :
    number? (c :: s) = if (c :: s).contains '.' then Double.readDecimal? (c :: s)
      else (Digits.read? (c :: s)).bind fun n =>
        if n < Nat.pow 2 63 then some (.ofNat n) else none := by
  unfold number?
  rw [if_neg (not_infinity digit), if_pos (by simpa using digit)]

/-- What a row of digits is read as. -/
theorem number?_of_all_isDigit {s : List Char} (some : s ≠ [])
    (digits : s.all Digits.isDigit = true) :
    number? s = if Digits.value s < 2 ^ 63 then .some (.ofNat (Digits.value s)) else none := by
  cases s with
  | nil => exact absurd rfl some
  | cons c s =>
    have digit := List.all_eq_true.1 digits
    have noPoint : (c :: s).contains '.' = false := by
      rw [Bool.eq_false_iff]
      intro point
      exact absurd (digit '.' (List.contains_iff_mem.1 point)) (by decide)
    rw [number?_of_isDigit (digit c List.mem_cons_self), noPoint, if_neg Bool.false_ne_true,
      Digits.read?, if_pos ⟨some, digits⟩, Option.bind_some, Nat.pow_eq]

/-- A number below the limit is finite. -/
theorem finite_of_lt {n : Double} (positive : n.negative = false)
    (below : n.lt (.ofNat (2 ^ 63)) = true) : n.isFinite = true ∧ n.magnitude < 1086 * 2 ^ 52 := by
  have limit : (Double.ofNat (2 ^ 63)).place = 1086 * 2 ^ 52 := by decide +kernel
  have place : n.place = n.magnitude := by
    rw [Double.place, positive, if_neg Bool.false_ne_true]
  simp only [Double.lt, limit, place, Bool.and_eq_true, decide_eq_true_eq] at below
  have small : n.magnitude < 1086 * 2 ^ 52 := by
    have := below.2
    omega
  refine ⟨?_, small⟩
  have exponent : n.exponent = n.magnitude / 2 ^ 52 := rfl
  simp only [Double.isFinite, decide_eq_true_eq]
  omega

/-- The text of a number is read as the number. -/
theorem number?_format {n : Double} (writable : n.Writable) :
    number? n.format.toList = some n := by
  rcases writable with rfl | ⟨positive, below⟩
  · decide +kernel
  · obtain ⟨finite, small⟩ := finite_of_lt positive below
    have numeral := Double.format_numeral finite positive
    generalize n.format.toList = s at numeral
    cases numeral with
    | whole some digits rounds =>
      have short : Digits.value s < 2 ^ 63 := by
        by_contra long
        have large := Double.le_magnitude_ofNat (Nat.le_of_not_lt long)
        rw [rounds] at large
        omega
      rw [number?_of_all_isDigit some digits, if_pos short, rounds]
    | point form some digits places reads =>
      rename_i before after
      cases before with
      | nil => exact absurd rfl some
      | cons c before =>
        have first : Digits.isDigit c = true := List.all_eq_true.1 digits c List.mem_cons_self
        have point : s.contains '.' = true := by
          rw [form]
          exact List.contains_iff_mem.2 (List.mem_append_right _ List.mem_cons_self)
        rw [form, List.cons_append] at point reads ⊢
        rw [number?_of_isDigit first, if_pos point, reads]

/-- A word in letters of either case. -/
theorem inWord_of_eqIgnoringCase {s t : List Char} (same : Text.eqIgnoringCase s t = true)
    (plain : ∀ c ∈ Text.lowerAscii t, InWord c) : ∀ c ∈ s, InWord c := by
  have same : Text.lowerAscii s = Text.lowerAscii t := by
    simpa [Text.eqIgnoringCase] using same
  exact fun c mem => inWord_of_toLower (plain _ (same ▸ List.mem_map_of_mem mem))

/-- What is read as a number is a word. -/
theorem inWord_of_number? {token : List Char} {n : Double} (reads : number? token = some n) :
    token ≠ [] ∧ ∀ c ∈ token, InWord c := by
  unfold number? at reads
  split at reads
  · next infinity =>
    rcases infinity with rfl | same
    · decide
    · refine ⟨?_, inWord_of_eqIgnoringCase same (by decide)⟩
      rintro rfl
      exact absurd same (by decide)
  · next finite =>
    split at reads
    · next digit =>
      refine ⟨by rintro rfl; exact absurd digit (by decide), ?_⟩
      split at reads
      · exact inWord_of_readDecimal? reads
      · obtain ⟨m, number, -⟩ := Option.bind_eq_some_iff.1 reads
        exact (inWord_of_read? number).2
    · cases reads

/-- Spellings of keywords are words of small letters. -/
theorem inWord_of_spelling {k : Keyword} {s : String} (mem : s ∈ k.spellings) :
    s.toList ≠ [] ∧ s ≠ "infinity" ∧
      ∀ c ∈ s.toList, InWord c ∧ Digits.isDigit c = false ∧ c ≠ '∞' := by
  have all : ∀ k ∈ Keyword.all, ∀ s ∈ k.spellings, s ∉ ["", "infinity"] ∧
      ∀ c ∈ s.toList, 95 ≤ c.toNat ∧ c.toNat ≤ 122 := by
    decide +kernel
  have small : ∀ k : Fin 28, InWord (Char.ofNat (95 + k)) ∧
      Digits.isDigit (Char.ofNat (95 + k)) = false ∧ Char.ofNat (95 + k) ≠ '∞' := by decide
  obtain ⟨other, bounds⟩ := all k k.mem_all s mem
  simp only [List.mem_cons, List.not_mem_nil, or_false, not_or] at other
  refine ⟨fun none => other.1 (String.toList_eq_nil_iff.1 none), other.2, fun c mem => ?_⟩
  obtain ⟨low, high⟩ := bounds c mem
  have here := small ⟨c.toNat - 95, by omega⟩
  have same : 95 + (c.toNat - 95) = c.toNat := by omega
  rw [← Char.ofNat_toNat c]
  simpa only [same] using here

/-- What is read as a keyword is a word, and no number. -/
theorem inWord_of_ofWord? {token : List Char} {k : Keyword} (reads : Keyword.ofWord? token = some k) :
    token ≠ [] ∧ (∀ c ∈ token, InWord c) ∧ number? token = none ∧
      (token.head?.map Digits.isDigit).getD false = false := by
  simp only [Keyword.ofWord?] at reads
  have found := List.find?_some reads
  obtain ⟨some, infinity, letters⟩ := inWord_of_spelling (List.contains_iff_mem.1 found)
  have lower : (String.ofList (Text.lowerAscii token)).toList = Text.lowerAscii token :=
    String.toList_ofList
  rw [lower] at some letters
  have letter (c : Char) (mem : c ∈ token) := letters _ (List.mem_map_of_mem (f := Char.toLower) mem)
  have digit : (token.head?.map Digits.isDigit).getD false = false := by
    cases token with
    | nil => rfl
    | cons c rest =>
      cases first : Digits.isDigit c with
      | false => simp [first]
      | true =>
        have other := (letter c List.mem_cons_self).2.1
        rw [(ordinary_of_isDigit first).2.2.2, first] at other
        cases other
  refine ⟨by rintro rfl; exact some rfl, fun c mem => inWord_of_toLower (letter c mem).1, ?_, digit⟩
  unfold number?
  rw [if_neg, if_neg (by simp [digit])]
  rintro (rfl | same)
  · exact (letter '∞' List.mem_cons_self).2.2 (by decide)
  · have same : Text.lowerAscii token = Text.lowerAscii "infinity".toList := by
      simpa [Text.eqIgnoringCase] using same
    exact infinity (by rw [same]; rfl)

/-- A word is a token. -/
theorem token_of_inWord {token : List Char} {a : Operand} (some : token ≠ [])
    (plain : ∀ c ∈ token, InWord c) (reads : ∀ d, ∃ d', Word d token a d') : Token token a where
  closed := closed_of_ordinary fun c mem =>
    ⟨(plain c mem).1, fun same => (plain c mem).2.2 (same ▸ List.mem_cons_self)⟩
  bare := {
    nonempty := some
    quoted := .of_solid fun c mem => (plain c mem).1.2.2.2.2
    quote := by
      cases token with
      | nil => rfl
      | cons c token => exact (plain c List.mem_cons_self).1.1
    brace := fun brace => (plain '{' (List.mem_of_head? brace)).2.2 (by decide)
    paren := fun mem => (plain '(' mem).1.2.1 rfl }
  reads := reads

/-- What is read as a number is a token. -/
theorem token_of_number? {token : List Char} {n : Double} (reads : number? token = some n) :
    Token token (.number n) :=
  token_of_inWord (inWord_of_number? reads).1 (inWord_of_number? reads).2 fun d => ⟨d, .number reads⟩

/-- The text of a number is a token. -/
theorem token_number {n : Double} (writable : n.Writable) :
    Token n.format.toList (.number n) :=
  token_of_number? (number?_format writable)

/-- What is read as a keyword is a token. -/
theorem token_of_ofWord? {token : List Char} {k : Keyword} (reads : Keyword.ofWord? token = some k) :
    Token token (.keyword k) := by
  obtain ⟨some, plain, number, digit⟩ := inWord_of_ofWord? reads
  exact token_of_inWord some plain fun d => ⟨_, .keyword number digit reads⟩

/-- The text of a keyword is read as the keyword. -/
theorem ofWord?_text (k : Keyword) : Keyword.ofWord? k.text.toList = some k := by
  have all : ∀ k ∈ Keyword.all, Keyword.ofWord? k.text.toList = some k := by decide +kernel
  exact all k k.mem_all

/-- The text of a keyword is a token. -/
theorem token_keyword (k : Keyword) : Token k.text.toList (.keyword k) :=
  token_of_ofWord? (ofWord?_text k)

end Compile

end TagRules
