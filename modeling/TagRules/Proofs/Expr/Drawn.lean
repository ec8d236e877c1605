import TagRules.Proofs.Expr.Outside
import TagRules.Proofs.Expr.Steps
import TagRules.Proofs.Expr.Weight

/-!
# Texts drawn from a source

Every text that compiling works on is made of parts of the source, of placeholders, and of commas
that stand for comparisons (`Drawn`). If the source has no blanks and no backslashes outside of its
literals, then neither has such a text, and what it is cut into is drawn from the source again
(`Stems`): no cut is within a placeholder or within a literal.
-/

namespace TagRules

namespace Compile

/-- A text made of parts of a source, and, outside of literals, of placeholders and commas. -/
inductive Drawn (source : List Char) : Quote → List Char → Prop
  | verbatim {q s} (part : s <:+: source) : Drawn source q s
  | key {q s n t} (part : s <:+: source) (outside : (q.after s).inside = false)
    (rest : Drawn source (q.after (s ++ placeholder n)) t) :
    Drawn source q (s ++ (placeholder n ++ t))
  | comma {q s t} (part : s <:+: source) (outside : (q.after s).inside = false)
    (rest : Drawn source (q.after (s ++ [','])) t) : Drawn source q (s ++ ',' :: t)

/-- No placeholder stands across the place between two texts. -/
def Severable (s t : List Char) : Prop :=
  (∀ c ∈ s.getLast?, ¬InPlaceholder c) ∨ ∀ c ∈ t.head?, ¬InPlaceholder c

theorem severable_paren {s t : List Char} {c : Char} (paren : c = '(' ∨ c = ')') :
    Severable s (c :: t) := by
  refine .inr fun d first => ?_
  cases first
  rcases paren with rfl | rfl <;> decide

theorem Severable.of_append {front s t : List Char} (h : Severable (front ++ s) t) :
    Severable s t := by
  refine h.imp_left fun before c last => before c ?_
  rw [List.getLast?_append, Option.mem_def.1 last]
  rfl

namespace Drawn

variable {source s t : List Char} {q : Quote} {n : Nat}

theorem append_key (first : Drawn source q s) (outside : (q.after s).inside = false)
    (rest : Drawn source (q.after (s ++ placeholder n)) t) :
    Drawn source q (s ++ (placeholder n ++ t)) := by
  induction first with
  | verbatim part => exact .key part outside rest
  | @key q s m s' part outside' _ ih =>
    rw [← List.append_assoc s, Quote.after_append] at outside
    have later := ih outside (by rwa [List.append_assoc, List.append_assoc, ← List.append_assoc s,
      Quote.after_append] at rest)
    rw [List.append_assoc, List.append_assoc]
    exact .key part outside' later
  | @comma q s s' part outside' _ ih =>
    rw [← List.singleton_append, ← List.append_assoc s, Quote.after_append] at outside
    have later := ih outside (by rwa [List.append_assoc, List.cons_append, ← List.singleton_append,
      ← List.append_assoc s, Quote.after_append] at rest)
    rw [List.append_assoc, List.cons_append]
    exact .comma part outside' later

theorem append_comma (first : Drawn source q s) (outside : (q.after s).inside = false)
    (rest : Drawn source (q.after (s ++ [','])) t) : Drawn source q (s ++ ',' :: t) := by
  induction first with
  | verbatim part => exact .comma part outside rest
  | @key q s m s' part outside' _ ih =>
    rw [← List.append_assoc s, Quote.after_append] at outside
    have later := ih outside (by rwa [List.append_assoc, List.append_assoc, ← List.append_assoc s,
      Quote.after_append] at rest)
    rw [List.append_assoc, List.append_assoc]
    exact .key part outside' later
  | @comma q s s' part outside' _ ih =>
    rw [← List.singleton_append, ← List.append_assoc s, Quote.after_append] at outside
    have later := ih outside (by rwa [List.append_assoc, List.cons_append, ← List.singleton_append,
      ← List.append_assoc s, Quote.after_append] at rest)
    rw [List.append_assoc, List.cons_append]
    exact .comma part outside' later

/-- A text is cut anywhere but within a placeholder. -/
theorem split (h : Drawn source q (s ++ t)) (free : Severable s t) :
    Drawn source q s ∧ Drawn source (q.after s) t := by
  generalize form : s ++ t = whole at h
  induction h generalizing s with
  | verbatim part =>
    subst form
    exact ⟨.verbatim ((List.prefix_append _ _).isInfix.trans part),
      .verbatim ((List.suffix_append _ _).isInfix.trans part)⟩
  | @key q x m y part outside rest ih =>
    rcases List.append_eq_append_iff.1 form with ⟨a, rfl, rfl⟩ | ⟨a, rfl, after⟩
    · refine ⟨.verbatim ((List.prefix_append _ _).isInfix.trans part),
        .key ((List.suffix_append _ _).isInfix.trans part) ?_ ?_⟩
      · rwa [← Quote.after_append]
      · rwa [← Quote.after_append, ← List.append_assoc]
    · rcases List.append_eq_append_iff.1 after with ⟨b, rfl, rfl⟩ | ⟨b, key, rfl⟩
      · rw [← List.append_assoc] at free
        obtain ⟨first, second⟩ := ih free.of_append rfl
        rw [← Quote.after_append, List.append_assoc] at second
        exact ⟨.key part outside first, second⟩
      · rcases List.eq_nil_or_concat a with rfl | ⟨a, c, rfl⟩
        · rw [List.append_nil]
          rw [List.nil_append] at key
          subst key
          refine ⟨.verbatim part, .key (s := []) List.nil_infix outside ?_⟩
          rwa [List.nil_append, ← Quote.after_append]
        · cases b with
          | nil =>
            rw [List.append_nil] at key
            rw [← key]
            have alone : Drawn source q (x ++ (placeholder m ++ [])) :=
              .key part outside (.verbatim List.nil_infix)
            rw [List.append_nil] at alone
            exact ⟨alone, rest⟩
          | cons d b =>
            have inside (e : Char) (mem : e ∈ a.concat c ++ d :: b) : InPlaceholder e :=
              inPlaceholder_of_mem (key ▸ mem)
            rcases free with before | after
            · exact absurd (inside c (by simp)) (before c (by simp))
            · exact absurd (inside d (by simp)) (after d rfl)
  | @comma q x y part outside rest ih =>
    rcases List.append_eq_append_iff.1 form with ⟨a, rfl, rfl⟩ | ⟨a, rfl, after⟩
    · refine ⟨.verbatim ((List.prefix_append _ _).isInfix.trans part),
        .comma ((List.suffix_append _ _).isInfix.trans part) ?_ ?_⟩
      · rwa [← Quote.after_append]
      · rwa [← Quote.after_append, ← List.append_assoc]
    · cases a with
      | nil =>
        rw [List.nil_append] at after
        subst after
        rw [List.append_nil]
        exact ⟨.verbatim part, .comma (s := []) List.nil_infix outside
          (by rwa [List.nil_append, ← Quote.after_append])⟩
      | cons c a =>
        obtain ⟨rfl, rfl⟩ := List.cons.inj after
        rw [← List.singleton_append, ← List.append_assoc] at free
        obtain ⟨first, second⟩ := ih free.of_append rfl
        rw [← Quote.after_append, List.append_assoc, List.singleton_append] at second
        exact ⟨.comma part outside first, second⟩

/-- Without commas outside of literals, a text is a part of the source, or it has a placeholder
outside of literals. -/
theorem verbatim_or_key (h : Drawn source q s) (plain : q.Outside (· ≠ ',') s) :
    s <:+: source ∨ (∃ n, placeholder n <:+: s) ∧ ¬q.Outside (· ≠ '{') s := by
  cases h with
  | verbatim part => exact .inl part
  | @key _ s n t part outside =>
    refine .inr ⟨⟨n, s, t, List.append_assoc ..⟩, fun none => ?_⟩
    have here := (Quote.outside_append.1 (Quote.outside_append.1 none).2).1.1
    exact here (by simpa [Quote.next, isQuote] using outside) rfl
  | comma part outside =>
    have here := (Quote.outside_append.1 plain).2.1
    exact absurd rfl (here (by simpa [Quote.next, isQuote] using outside))

end Drawn

/-- Outside of literals, every parenthesis opens the arguments of a call, and every brace begins an
argument. `before` is the character before the text. -/
def Guarded (before : Option Char) (q : Quote) : List Char → Prop
  | [] => True
  | c :: rest =>
    ((q.next c).inside = false → (c = '(' → ∃ d ∈ before, Text.isLetterOrDigit d = true) ∧
      (c = '{' → ∀ d ∈ before, d = '(' ∨ d = ',')) ∧ Guarded (some c) (q.next c) rest

-- The instances for an option come first: characters are finite, too, but too many to go through.
instance decidableGuarded (before : Option Char) (q : Quote) :
    (s : List Char) → Decidable (Guarded before q s)
  | [] => inferInstanceAs (Decidable True)
  | c :: rest =>
    have := decidableGuarded (some c) (q.next c) rest
    have : Decidable (∃ d ∈ before, Text.isLetterOrDigit d = true) :=
      Option.decidableExistsMem before
    have : Decidable (∀ d ∈ before, d = '(' ∨ d = ',') :=
      Option.decidableForallMem before
    inferInstanceAs (Decidable (_ ∧ _))

namespace Guarded

variable {before before' : Option Char} {q : Quote} {s t : List Char}

theorem append : Guarded before q (s ++ t) ↔
    Guarded before q s ∧ Guarded (s.getLast?.or before) (q.after s) t := by
  induction s generalizing before q with
  | nil => exact (and_iff_right trivial).symm
  | cons c s ih =>
    have last : (c :: s).getLast?.or before = s.getLast?.or (some c) := by
      cases h : s.getLast? <;> simp [List.getLast?_cons, h]
    rw [List.cons_append, Guarded, Guarded, ih, last, and_assoc]
    rfl

/-- What stands before a text is of no account where the text begins with neither bracket. -/
theorem of_head (h : Guarded before q s) (plain : ∀ c ∈ s.head?, c ≠ '(' ∧ c ≠ '{') :
    Guarded before' q s := by
  cases s with
  | nil => trivial
  | cons c s =>
    obtain ⟨paren, brace⟩ := plain c rfl
    exact ⟨fun _ => ⟨fun same => absurd same paren, fun same => absurd same brace⟩, h.2⟩

/-- After what is neither a letter nor a digit, a text may as well begin. -/
theorem begin (h : Guarded before q s) (sign : ∀ c ∈ before, Text.isLetterOrDigit c = false) :
    Guarded none q s := by
  cases s with
  | nil => trivial
  | cons c s =>
    refine ⟨fun out => ⟨fun paren => ?_, fun _ => nofun⟩, h.2⟩
    obtain ⟨d, here, name⟩ := (h.1 out).1 paren
    exact absurd name (by simp [sign d here])

theorem of_plain (plain : ∀ c ∈ s, c ≠ '(' ∧ c ≠ '{') : Guarded before q s := by
  induction s generalizing before q with
  | nil => trivial
  | cons c s ih =>
    obtain ⟨paren, brace⟩ := plain c List.mem_cons_self
    exact ⟨fun _ => ⟨fun same => absurd same paren, fun same => absurd same brace⟩,
      ih fun d mem => plain d (List.mem_cons_of_mem _ mem)⟩

/-- After a comma, a text may as well begin. -/
theorem comma (h : Guarded none q s) : Guarded (some ',') q s := by
  cases s with
  | nil => trivial
  | cons c s =>
    refine ⟨fun out => ⟨fun paren => ?_, fun _ d here => ?_⟩, h.2⟩
    · obtain ⟨d, here, -⟩ := (h.1 out).1 paren
      cases here
    · exact .inr (Option.some.inj here).symm

/-- A text that has neither parentheses nor commas, and does not begin with a brace, has none
outside of literals. -/
theorem outside (h : Guarded before q s) (paren : '(' ∉ s) (noComma : q.Outside (· ≠ ',') s)
    (bound : ∀ c ∈ before, c ≠ '(' ∧ (c = ',' → q.inside = true))
    (first : before = none → s.head? ≠ some '{') : q.Outside (· ≠ '{') s := by
  induction s generalizing before q with
  | nil => trivial
  | cons c s ih =>
    simp only [List.mem_cons, not_or] at paren
    refine ⟨fun out => ?_, ih h.2 paren.2 noComma.2 (fun d here => ?_) fun same =>
      absurd same (Option.some_ne_none c)⟩
    · rintro rfl
      cases before with
      | none => exact first rfl rfl
      | some d =>
        obtain ⟨notOpen, inside⟩ := bound d rfl
        have stays : q.inside = false := (Quote.next_of_not_isQuote rfl).symm.trans out
        simp [inside (((h.1 out).2 rfl d rfl).resolve_left notOpen)] at stays
    · cases here
      refine ⟨Ne.symm paren.1, fun same => ?_⟩
      cases inside : (q.next c).inside with
      | true => rfl
      | false => exact absurd same (noComma.1 inside)

end Guarded

theorem after_placeholder (n : Nat) : Quote.after {} (placeholder n) = {} :=
  Quote.after_sign rfl (List.cons_ne_nil _ _) fun c mem =>
    ⟨(placeholder_ordinary n c mem).1.1, (placeholder_ordinary n c mem).1.2.2.2.1⟩

/-- Neither a blank nor a backslash. -/
def Tidy (c : Char) : Prop :=
  c ≠ '\\' ∧ Text.isBlank c = false

instance (c : Char) : Decidable (Tidy c) :=
  inferInstanceAs (Decidable (_ ∧ _))

/-- A text without blanks outside of its literals is tidy if no backslash is there. -/
theorem tidy_solid {q : Quote} {s : List Char} (start : q.inside = false → q = {})
    (plain : q.Outside (· ≠ '\\') s) : q.Outside Tidy (q.solid s) := by
  induction s generalizing q with
  | nil => trivial
  | cons c s ih =>
    have later := ih (fun out => Quote.next_eq out (plain.1 out)) plain.2
    rw [Quote.solid]
    split
    · next blank =>
      simp only [Bool.and_eq_true, Bool.not_eq_true'] at blank
      have out := (Quote.next_inside_of_isBlank blank.2).symm.trans blank.1
      have same : q.next c = q := by rw [start out, Quote.next_of_isBlank blank.2]
      rwa [same] at later ⊢
    · next kept =>
      refine ⟨fun out => ⟨plain.1 out, ?_⟩, later⟩
      simpa [out] using kept

/-- A text drawn from a source, with neither blanks nor backslashes outside of its literals. Unless
it is `loose`, its parentheses are those of calls. -/
structure Stems (loose : Prop) (source text : List Char) : Prop where
  tidy : Quote.Outside Tidy {} text
  drawn : Drawn source {} text
  guarded : loose ∨ Guarded none {} text

/-- A character that a text can be cut at. -/
def Cutting (c : Char) : Prop :=
  (isQuote c = false ∧ c ≠ '\\') ∧ ¬InPlaceholder c ∧ Text.isLetterOrDigit c = false

instance (c : Char) : Decidable (Cutting c) :=
  inferInstanceAs (Decidable (_ ∧ _))

/-- The separator of a combination. -/
theorem cutting_separator {separator : List Char} {combine : List Expr → Expr}
    (mem : (separator, combine) ∈ combinations) :
    Separating separator ∧ ∀ c ∈ separator, Cutting c := by
  refine ⟨(Combination.of_mem mem).separating, ?_⟩
  cases Combination.of_mem mem <;> decide

/-- The operator of a comparison. -/
theorem cutting_operator {operator : List Char} {f : Builtin}
    (mem : (operator, f) ∈ Builtin.comparisons) :
    operator ≠ [] ∧ ∀ c ∈ operator, Cutting c :=
  (by decide : ∀ p ∈ Builtin.comparisons, p.1 ≠ [] ∧ ∀ c ∈ p.1, Cutting c) _ mem

namespace Stems

variable {loose : Prop} {source s t sign : List Char}

theorem place (h : Stems loose source s) (outside : (Quote.after {} s).inside = false) :
    Quote.after {} s = {} := by
  rcases List.eq_nil_or_concat s with rfl | ⟨front, c, rfl⟩
  · rfl
  · have tidy := h.tidy
    rw [List.concat_eq_append, Quote.after_append] at outside ⊢
    rw [List.concat_eq_append, Quote.outside_append] at tidy
    exact Quote.next_eq outside (tidy.2.1 outside).1

theorem left (h : Stems loose source (s ++ t)) (free : Severable s t) : Stems loose source s :=
  ⟨(Quote.outside_append.1 h.tidy).1, (h.drawn.split free).1,
    h.guarded.imp_right fun guarded => (Guarded.append.1 guarded).1⟩

theorem right (h : Stems loose source (s ++ t)) (place : Quote.after {} s = {})
    (free : Severable s t) (begins : (∀ c ∈ s.getLast?, Text.isLetterOrDigit c = false) ∨
      ∀ c ∈ t.head?, c ≠ '(' ∧ c ≠ '{') : Stems loose source t := by
  have tidy := (Quote.outside_append.1 h.tidy).2
  have drawn := (h.drawn.split free).2
  rw [place] at tidy drawn
  refine ⟨tidy, drawn, h.guarded.imp_right fun guarded => ?_⟩
  have guarded := (Guarded.append.1 guarded).2
  rw [place, Option.or_none] at guarded
  exact begins.elim guarded.begin guarded.of_head

/-- The texts on both sides of a sign outside of literals. -/
theorem around (sign : List Char) (h : Stems loose source (s ++ (sign ++ t)))
    (outside : (Quote.after {} s).inside = false) (some : sign ≠ [])
    (cutting : ∀ c ∈ sign, Cutting c) : Stems loose source s ∧ Stems loose source t := by
  have first : Stems loose source s := by
    refine h.left (.inr fun c first => (cutting c ?_).2.1)
    rw [List.head?_append, List.head?_eq_some_head some] at first
    cases first
    exact List.head_mem some
  have last : ∀ c ∈ (s ++ sign).getLast?, Cutting c := by
    intro c last
    rw [List.getLast?_append, List.getLast?_eq_some_getLast some] at last
    cases last
    exact cutting _ (List.getLast_mem some)
  have after : Quote.after {} (s ++ sign) = {} := by
    rw [Quote.after_append, first.place outside]
    exact Quote.after_sign rfl some fun c mem => (cutting c mem).1
  rw [← List.append_assoc] at h
  exact ⟨first, h.right after (.inl fun c here => (last c here).2.1)
    (.inl fun c here => (last c here).2.2)⟩

/-- Parts between separators stem from the source. -/
theorem of_cuts {parts : List (List Char)} (h : Stems loose source s) (cuts : Cuts sign {} s parts)
    (some : sign ≠ []) (cutting : ∀ c ∈ sign, Cutting c) :
    ∀ part ∈ parts, Stems loose source part := by
  generalize start : ({} : Quote) = q at cuts
  induction cuts with
  | last => exact List.forall_mem_singleton.2 h
  | more outside _ ih =>
    subst start
    obtain ⟨first, rest⟩ := h.around _ outside some cutting
    have after := Quote.after_sign outside some fun c mem => (cutting c mem).1
    exact List.forall_mem_cons.2 ⟨first, ih rest after.symm⟩

theorem trim (h : Stems loose source s) : Stems loose source (Text.trim s) := by
  obtain ⟨front, back, blank, blank', form⟩ := Text.exists_trim s
  -- A blank at the front would be outside of literals.
  have none : front = [] := by
    cases front with
    | nil => rfl
    | cons c front =>
      simp only [Text.blank, List.all_cons, Bool.and_eq_true] at blank
      rw [form] at h
      have solid := (h.tidy.1 (Quote.next_inside_of_isBlank blank.1)).2
      exact absurd blank.1 (by simp [solid])
  rw [form, none] at h
  refine h.left (.inr fun c first => ?_)
  have black := List.all_eq_true.1 blank' c (List.mem_of_head? first)
  rintro (rfl | rfl | digit)
  · exact absurd black (by decide)
  · exact absurd black (by decide)
  · simp [(inWord_of_isDigit digit).1.2.2.2.2] at black

/-- The items of a list of arguments stem from the source. -/
theorem items (h : Stems loose source s) : ∀ item ∈ argumentsOf s, Stems loose source item :=
  h.of_cuts (cuts_argumentsFrom 0 (h.tidy.imp fun _ tidy => tidy.2)) (List.cons_ne_nil _ _)
    (by decide)

/-- An item without parentheses is a part of the source, or a placeholder is in it. -/
theorem word (h : Stems loose source s) : ∀ item ∈ argumentsOf s, '(' ∉ item →
    item.head? ≠ some '{' → item <:+: source ∨ loose ∧ ∃ n, placeholder n <:+: item := by
  intro item mem paren first
  have item' := h.items item mem
  have noComma : Quote.Outside (· ≠ ',') {} item := by
    obtain ⟨front, rest, form, plain, others⟩ :=
      outside_argumentsFrom 0 (h.tidy.imp fun _ tidy => tidy.2)
    rw [argumentsOf, form] at mem
    rcases List.mem_cons.1 mem with rfl | mem
    · exact plain rfl paren
    · exact others item mem paren
  refine (item'.drawn.verbatim_or_key noComma).imp_right fun found => ⟨?_, found.1⟩
  exact item'.guarded.resolve_right fun guarded => found.2 <|
    guarded.outside paren noComma (fun c here => absurd here (Option.not_mem_none c)) fun _ => first

/-- The call of a comparison has arguments that stem from the source. -/
theorem append_comma (first : Stems loose source s) (outside : (Quote.after {} s).inside = false)
    (rest : Stems loose source t) : Stems loose source (s ++ ',' :: t) := by
  have place := first.place outside
  have after : Quote.after {} (s ++ [',']) = {} := by
    rw [Quote.after_append, place]
    rfl
  refine ⟨Quote.outside_append.2 ⟨first.tidy, fun _ => by decide, ?_⟩,
    first.drawn.append_comma outside (by rw [after]; exact rest.drawn), ?_⟩
  · rw [place]
    exact rest.tidy
  · refine first.guarded.elim .inl fun front => rest.guarded.imp_right fun back => ?_
    refine Guarded.append.2 ⟨front, fun _ => ⟨nofun, nofun⟩, ?_⟩
    rw [place]
    exact back.comma

/-- A placeholder may be put between texts that stem from a source. -/
theorem append_key {n : Nat} (first : Stems loose source s) (place : Quote.after {} s = {})
    (rest : Stems loose source t) (guarded : loose ∨ Guarded none {} (s ++ (placeholder n ++ t))) :
    Stems loose source (s ++ (placeholder n ++ t)) := by
  have after : Quote.after {} (s ++ placeholder n) = {} := by
    rw [Quote.after_append, place, after_placeholder]
  refine ⟨Quote.outside_append.2 ⟨first.tidy, Quote.outside_append.2 ⟨?_, ?_⟩⟩, ?_, guarded⟩
  · exact Quote.outside_of_forall fun c mem => (placeholder_ordinary n c mem).1.2.2.2
  · rw [place, after_placeholder]
    exact rest.tidy
  · exact first.drawn.append_key (by rw [place]) (by rw [after]; exact rest.drawn)

/-- A placeholder for arguments, in parentheses. -/
theorem append_arguments (first : Stems loose source (s ++ ['(']))
    (place : Quote.after {} (s ++ ['(']) = {}) (n : Nat) (rest : Stems loose source (')' :: t)) :
    Stems loose source (s ++ '(' :: (placeholder n ++ ')' :: t)) := by
  have whole := first.append_key (n := n) place rest ?_
  · rwa [List.append_assoc] at whole
  refine first.guarded.elim .inl fun front => rest.guarded.imp_right fun back => ?_
  refine Guarded.append.2 ⟨front, Guarded.append.2 ⟨?_, ?_⟩⟩
  · refine ⟨fun _ => ⟨nofun, fun _ d here => .inl ?_⟩, .of_plain fun c mem => ?_⟩
    · rw [List.getLast?_concat] at here
      exact (Option.some.inj here).symm
    · rcases List.mem_append.1 mem with digit | last
      · have digit := List.all_eq_true.1 (Digits.all_isDigit_ofNat n) c digit
        constructor <;> rintro rfl <;> exact absurd digit (by decide)
      · rw [List.mem_singleton.1 last]
        decide
  · rw [place, after_placeholder]
    exact back.of_head fun c first => by cases first; decide

end Stems

end Compile

end TagRules
