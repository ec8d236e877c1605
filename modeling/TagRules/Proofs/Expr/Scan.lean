import TagRules.Expr.Basic
import TagRules.Expr.Quote

/-!
# Texts that the cuts leave whole

`Quote.pass` follows a text and notes where it stands with respect to literals and parentheses. A
text that passes is left whole by the cuts: `Closed` texts are items of their own in a list of
arguments, and `Inner` texts, which may also hold commas, can stand between parentheses. What is
joined from such parts is cut into the same parts again.
-/

namespace TagRules

/-- A condition on all characters of a text is decided along the text. -/
instance (priority := high) decidableForallChar (s : List Char) (p : Char → Prop)
    [DecidablePred p] : Decidable (∀ c ∈ s, p c) :=
  List.decidableBAll p s

/-- A condition on some character of a text is decided along the text. -/
instance (priority := high) decidableExistsChar (s : List Char) (p : Char → Prop)
    [DecidablePred p] : Decidable (∃ c ∈ s, p c) :=
  List.decidableBEx p s

/-- Follow a text. It must not leave the parentheses that it stands in and must not have blanks
outside of literals, nor commas outside of its parentheses unless these are allowed. -/
def Quote.pass (commas : Bool) (q : Quote) (depth : Nat) : List Char → Option (Quote × Nat)
  | [] => some (q, depth)
  | c :: rest =>
    let q' := q.next c
    if q'.inside then q'.pass commas depth rest
    else if c = '(' then q'.pass commas (depth + 1) rest
    else if c = ')' then
      match depth with
      | 0 => none
      | depth + 1 => q'.pass commas depth rest
    else if Text.isBlank c || c = ',' && depth = 0 && !commas then none
    else q'.pass commas depth rest

/-- How many parentheses are open after a character, if `depth` are before it. Those within literals are not
counted, and one that closes where none is open changes nothing. -/
def Quote.opened (q : Quote) (depth : Nat) (c : Char) : Nat :=
  if (q.next c).inside then depth
  else if c = '(' then depth + 1
  else if c = ')' then depth - 1
  else depth

namespace Quote

variable {commas commas' : Bool} {q q' : Quote} {depth depth' : Nat} {c : Char} {s t : List Char}
  {r : Quote × Nat}

/-- How a character passes, and the depth after it. -/
inductive Step (commas : Bool) (q : Quote) (depth : Nat) (c : Char) : Nat → Prop
  | inside (h : (q.next c).inside = true) : Step commas q depth c depth
  | opens (h : (q.next c).inside = false) (paren : c = '(') : Step commas q depth c (depth + 1)
  | closes {below : Nat} (h : (q.next c).inside = false) (paren : c = ')')
    (deep : depth = below + 1) : Step commas q depth c below
  | plain (h : (q.next c).inside = false) (notOpen : c ≠ '(') (notClose : c ≠ ')')
    (solid : Text.isBlank c = false) (comma : c = ',' → depth = 0 → commas = true) :
    Step commas q depth c depth

theorem pass_cons : q.pass commas depth (c :: s) = some r ↔
    ∃ next, Step commas q depth c next ∧ (q.next c).pass commas next s = some r := by
  constructor
  · intro h
    simp only [pass] at h
    split at h
    · next inside => exact ⟨_, .inside inside, h⟩
    · next outside =>
      have outside : (q.next c).inside = false := by simpa using outside
      split at h
      · next opens => exact ⟨_, .opens outside opens, h⟩
      · next notOpen =>
        split at h
        · next closes =>
          cases depth with
          | zero => cases h
          | succ below => exact ⟨_, .closes outside closes rfl, h⟩
        · next notClose =>
          split at h
          · cases h
          · next solid =>
            simp only [Bool.or_eq_true, Bool.and_eq_true, decide_eq_true_eq, not_or,
              Bool.not_eq_true, not_and] at solid
            exact ⟨_, .plain outside notOpen notClose solid.1
              fun comma zero => by simpa using solid.2 ⟨comma, zero⟩, h⟩
  · rintro ⟨next, step, rest⟩
    simp only [pass]
    cases step with
    | inside h => rwa [if_pos h]
    | opens h paren =>
      rw [if_neg (by simp [h]), if_pos paren]
      exact rest
    | closes h paren deep =>
      subst paren deep
      rw [if_neg (by simp [h]), if_neg (by decide), if_pos rfl]
      exact rest
    | plain h notOpen notClose solid comma =>
      rw [if_neg (by simp [h]), if_neg notOpen, if_neg notClose, if_neg]
      · exact rest
      · simp only [solid, Bool.false_or, Bool.and_eq_true, decide_eq_true_eq, not_and,
          Bool.not_eq_true, Bool.not_eq_false']
        exact fun both => comma both.1 both.2

/-- The depth after a character that passes. -/
theorem Step.opened_eq {next : Nat} (step : Step commas q depth c next) :
    q.opened depth c = next := by
  rw [opened]
  cases step with
  | inside h => rw [if_pos h]
  | opens h paren => rw [if_neg (by simp [h]), if_pos paren]
  | closes h paren deep =>
    subst paren deep
    rw [if_neg (by simp [h])]
    rfl
  | plain h notOpen notClose => rw [if_neg (by simp [h]), if_neg notOpen, if_neg notClose]

/-- A character that passes is neither a comma between items nor a blank outside of literals. -/
theorem Step.kept {next : Nat} (step : Step false q depth c next) :
    ¬((q.next c).inside = false ∧ c = ',' ∧ depth = 0) ∧
      ¬((q.next c).inside = false ∧ Text.isBlank c = true) := by
  have sign (paren : c = '(' ∨ c = ')') : c ≠ ',' ∧ Text.isBlank c = false := by
    rcases paren with rfl | rfl <;> decide
  cases step with
  | inside h => simp [h]
  | opens _ paren => simp [sign (.inl paren)]
  | closes _ paren => simp [sign (.inr paren)]
  | plain _ _ _ solid comma =>
    refine ⟨fun both => ?_, by simp [solid]⟩
    exact absurd (comma both.2.1 both.2.2) (by decide)

theorem pass_append : q.pass commas depth (s ++ t) = some r ↔
    ∃ m, q.pass commas depth s = some m ∧ m.1.pass commas m.2 t = some r := by
  induction s generalizing q depth with
  | nil => simp [pass]
  | cons c s ih =>
    rw [List.cons_append, pass_cons]
    constructor
    · rintro ⟨next, step, rest⟩
      obtain ⟨m, first, second⟩ := ih.1 rest
      exact ⟨m, pass_cons.2 ⟨next, step, first⟩, second⟩
    · rintro ⟨m, first, second⟩
      obtain ⟨next, step, first⟩ := pass_cons.1 first
      exact ⟨next, step, ih.2 ⟨m, first, second⟩⟩

/-- Within one more pair of parentheses, commas are allowed. -/
theorem pass_succ (commas' : Bool) (h : q.pass commas depth s = some (q', depth')) :
    q.pass commas' (depth + 1) s = some (q', depth' + 1) := by
  induction s generalizing q depth with
  | nil =>
    cases h
    rfl
  | cons c s ih =>
    obtain ⟨next, step, rest⟩ := pass_cons.1 h
    refine pass_cons.2 ⟨next + 1, ?_, ih rest⟩
    cases step with
    | inside h => exact .inside h
    | opens h paren => exact .opens h paren
    | closes h paren deep => exact .closes h paren (by rw [deep])
    | plain h notOpen notClose solid _ => exact .plain h notOpen notClose solid (by omega)

/-- Commas may be allowed. -/
theorem pass_true (h : q.pass commas depth s = some r) : q.pass true depth s = some r := by
  induction s generalizing q depth with
  | nil => exact h
  | cons c s ih =>
    obtain ⟨next, step, rest⟩ := pass_cons.1 h
    refine pass_cons.2 ⟨next, ?_, ih rest⟩
    cases step with
    | inside h => exact .inside h
    | opens h paren => exact .opens h paren
    | closes h paren deep => exact .closes h paren deep
    | plain h notOpen notClose solid _ => exact .plain h notOpen notClose solid fun _ _ => rfl

end Quote

/-- A text that can be an item among arguments. -/
def Closed (s : List Char) : Prop :=
  ∃ escaped, Quote.pass false {} 0 s = some (⟨false, escaped⟩, 0)

/-- A text that can stand between parentheses. -/
def Inner (s : List Char) : Prop :=
  ∃ escaped, Quote.pass true {} 0 s = some (⟨false, escaped⟩, 0)

instance (s : List Char) : Decidable (Closed s) :=
  decidable_of_iff (Quote.pass false {} 0 s = some (⟨false, false⟩, 0) ∨
      Quote.pass false {} 0 s = some (⟨false, true⟩, 0))
    ⟨fun h => h.elim (⟨_, ·⟩) (⟨_, ·⟩), fun ⟨escaped, h⟩ => by cases escaped <;> simp [h]⟩

/-- A character that has no meaning to the cuts besides a separator. -/
def Ordinary (c : Char) : Prop :=
  isQuote c = false ∧ c ≠ '(' ∧ c ≠ ')' ∧ c ≠ '\\' ∧ Text.isBlank c = false

instance (c : Char) : Decidable (Ordinary c) :=
  inferInstanceAs (Decidable (_ ∧ _))

theorem Quote.next_of_ordinary {c : Char} (ordinary : Ordinary c) (escaped : Bool) :
    Quote.next ⟨false, escaped⟩ c = {} := by
  simp [Quote.next, ordinary.1, ordinary.2.2.2.1]

theorem Quote.next_paren (escaped : Bool) {c : Char} (paren : c = '(' ∨ c = ')') :
    Quote.next ⟨false, escaped⟩ c = {} := by
  rcases paren with rfl | rfl <;> simp [Quote.next, isQuote]

theorem Quote.next_of_not_isQuote {q : Quote} {c : Char} (h : isQuote c = false) :
    (q.next c).inside = q.inside := by
  simp [Quote.next, h]

/-- The place after a character outside of literals is the one at the start. -/
theorem Quote.next_eq {q : Quote} {c : Char} (out : (q.next c).inside = false) (plain : c ≠ '\\') :
    q.next c = {} := by
  have place : q.next c = ⟨(q.next c).inside, decide (c = '\\')⟩ := rfl
  rw [place, out, decide_eq_false plain]

theorem Quote.pass_ordinary_cons {commas : Bool} {escaped : Bool} {depth : Nat} {c : Char}
    {s : List Char} (ordinary : Ordinary c) (comma : c = ',' → depth = 0 → commas = true) :
    Quote.pass commas ⟨false, escaped⟩ depth (c :: s) = Quote.pass commas {} depth s := by
  have allowed : ¬((Text.isBlank c || decide (c = ',') && decide (depth = 0) && !commas) = true) := by
    simp only [ordinary.2.2.2.2, Bool.false_or, Bool.and_eq_true, decide_eq_true_eq, not_and,
      Bool.not_eq_true, Bool.not_eq_false']
    exact fun both => comma both.1 both.2
  rw [pass.eq_def]
  simp only [next_of_ordinary ordinary]
  rw [if_neg Bool.false_ne_true, if_neg ordinary.2.1, if_neg ordinary.2.2.1, if_neg allowed]

/-- Ordinary characters pass. -/
theorem Quote.pass_ordinary {commas : Bool} {depth : Nat} {s : List Char}
    (ordinary : ∀ c ∈ s, Ordinary c) (comma : ',' ∈ s → depth = 0 → commas = true) (rest : List Char) :
    Quote.pass commas {} depth (s ++ rest) = Quote.pass commas {} depth rest := by
  induction s with
  | nil => rfl
  | cons c s ih =>
    rw [List.cons_append, pass_ordinary_cons (ordinary c List.mem_cons_self)
      fun same => comma (same ▸ List.mem_cons_self)]
    exact ih (fun d mem => ordinary d (List.mem_cons_of_mem _ mem))
      fun mem => comma (List.mem_cons_of_mem _ mem)

theorem isQuote_of_isBlank {c : Char} (blank : Text.isBlank c = true) : isQuote c = false := by
  cases quote : isQuote c with
  | false => rfl
  | true =>
    simp only [isQuote, Bool.or_eq_true, decide_eq_true_eq] at quote
    rcases quote with (rfl | rfl) | rfl <;> exact absurd blank (by decide)

theorem Quote.next_inside_of_isBlank {q : Quote} {c : Char} (blank : Text.isBlank c = true) :
    (q.next c).inside = q.inside := by
  simp [Quote.next, isQuote_of_isBlank blank]

/-- What passes from outside of literals does not begin with a blank. -/
theorem Quote.isBlank_of_pass_cons {commas : Bool} {q : Quote} {depth : Nat} {c : Char}
    {s : List Char} {r : Quote × Nat} (outside : q.inside = false)
    (h : q.pass commas depth (c :: s) = some r) : Text.isBlank c = false := by
  obtain ⟨next, step, -⟩ := pass_cons.1 h
  cases blank : Text.isBlank c with
  | false => rfl
  | true =>
    have stays := (next_inside_of_isBlank blank).trans outside
    cases step with
    | inside h => simp [stays] at h
    | opens _ paren => exact absurd blank (paren ▸ by decide)
    | closes _ paren => exact absurd blank (paren ▸ by decide)
    | plain _ _ _ solid => exact absurd blank (by simp [solid])

theorem Text.trim_eq_self {s : List Char} (first : ∀ c ∈ s.head?, isBlank c = false)
    (last : ∀ c ∈ s.getLast?, isBlank c = false) : trim s = s := by
  have start : trimStart s = s := by
    cases s with
    | nil => rfl
    | cons c s => simp [trimStart, first c rfl]
  rw [trim, start, trimEnd]
  cases h : s.reverse with
  | nil => rw [List.reverse_eq_nil_iff.1 h]; rfl
  | cons c rest =>
    have final : s.getLast? = some c := by rw [← List.head?_reverse, h]; rfl
    rw [List.dropWhile_cons_of_neg (by simp [last c final]), ← h, List.reverse_reverse]

/-- A text that neither begins nor ends with a blank. -/
def Tight (s : List Char) : Prop :=
  (∀ c ∈ s.head?, Text.isBlank c = false) ∧ ∀ c ∈ s.getLast?, Text.isBlank c = false

theorem Tight.trim_eq_self {s : List Char} (h : Tight s) : Text.trim s = s :=
  Text.trim_eq_self h.1 h.2

theorem Tight.ink_pos {s : List Char} (h : Tight s) (some : s ≠ []) : 0 < Text.ink s :=
  Text.ink_pos (List.head_mem some) (h.1 _ (List.head?_eq_some_head some))

theorem Tight.of_solid {s : List Char} (solid : ∀ c ∈ s, Text.isBlank c = false) : Tight s :=
  ⟨fun c first => solid c (List.mem_of_head? first), fun c last => solid c (List.mem_of_getLast? last)⟩

/-- A text that passes and ends outside of literals has blanks at neither end. -/
theorem Quote.tight_of_pass {commas escaped : Bool} {q : Quote} {depth depth' : Nat} {s : List Char}
    (outside : q.inside = false)
    (h : q.pass commas depth s = some (⟨false, escaped⟩, depth')) : Tight s := by
  refine ⟨fun c first => ?_, fun c last => ?_⟩
  · cases s with
    | nil => cases first
    | cons d s =>
      cases first
      exact isBlank_of_pass_cons outside h
  · obtain ⟨front, rfl⟩ := List.getLast?_eq_some_iff.1 last
    obtain ⟨⟨m, deep⟩, -, final⟩ := pass_append.1 h
    cases blank : Text.isBlank c with
    | false => rfl
    | true =>
      obtain ⟨next, -, done⟩ := pass_cons.1 final
      have ends : m.next c = ⟨false, escaped⟩ := congrArg Prod.fst (Option.some.inj done)
      have outside : m.inside = false := by
        rw [← next_inside_of_isBlank blank, ends]
      exact (blank.symm.trans (isBlank_of_pass_cons outside final)).symm ▸ rfl

theorem Closed.inner {s : List Char} (h : Closed s) : Inner s := by
  obtain ⟨escaped, passes⟩ := h
  exact ⟨escaped, Quote.pass_true passes⟩

theorem Inner.tight {s : List Char} (h : Inner s) : Tight s := by
  obtain ⟨escaped, passes⟩ := h
  exact Quote.tight_of_pass rfl passes

theorem Inner.trim_eq_self {s : List Char} (h : Inner s) : Text.trim s = s :=
  h.tight.trim_eq_self

/-- What passes is kept between parentheses. -/
theorem piecesWithin_pass {q q' : Quote} {depth depth' : Nat} {s : List Char}
    (h : q.pass true depth s = some (q', depth')) (afterName : Bool) (inner rest : List Char) :
    piecesWithin q afterName depth inner (s ++ rest) =
      piecesWithin q' afterName depth' (s.reverse ++ inner) rest := by
  induction s generalizing q depth inner with
  | nil =>
    cases h
    rfl
  | cons c s ih =>
    obtain ⟨next, step, passes⟩ := Quote.pass_cons.1 h
    rw [List.cons_append, List.reverse_cons, List.append_assoc, List.singleton_append,
      piecesWithin.eq_def]
    simp only []
    cases step with
    | inside here => rw [if_pos here, ih passes]
    | opens out paren => rw [if_neg (by simp [out]), if_pos paren, ih passes]
    | closes out paren deep =>
      subst paren deep
      rw [if_neg (by simp [out]), if_neg (by decide), if_pos rfl]
      simp only []
      rw [ih passes]
    | plain out notOpen notClose =>
      rw [if_neg (by simp [out]), if_neg notOpen, if_neg notClose, ih passes]

/-- A character of a list of arguments is a comma between items, is dropped or is kept. -/
theorem argumentsFrom_cons (q : Quote) (depth : Nat) (c : Char) (s : List Char) :
    argumentsFrom q depth (c :: s) =
      if (q.next c).inside = false ∧ c = ',' ∧ depth = 0 then
        [] :: argumentsFrom (q.next c) (q.opened depth c) s
      else if (q.next c).inside = false ∧ Text.isBlank c = true then
        argumentsFrom (q.next c) (q.opened depth c) s
      else consFirst c (argumentsFrom (q.next c) (q.opened depth c) s) := by
  rw [argumentsFrom, Quote.opened]
  cases inside : (q.next c).inside with
  | true => simp
  | false =>
    simp only [Bool.false_eq_true, if_false, true_and, Bool.and_eq_true, decide_eq_true_eq]
    split
    · next opens =>
      subst opens
      rfl
    · split
      · next closes =>
        subst closes
        rfl
      · rfl

/-- What passes is kept in one item. -/
theorem argumentsFrom_pass {q q' : Quote} {depth depth' : Nat} {s : List Char}
    (h : q.pass false depth s = some (q', depth')) (rest : List Char) :
    argumentsFrom q depth (s ++ rest) = s.foldr consFirst (argumentsFrom q' depth' rest) := by
  induction s generalizing q depth with
  | nil =>
    cases h
    rfl
  | cons c s ih =>
    obtain ⟨next, step, passes⟩ := Quote.pass_cons.1 h
    rw [List.cons_append, List.foldr_cons, argumentsFrom_cons, if_neg step.kept.1,
      if_neg step.kept.2, step.opened_eq, ih passes]

theorem foldr_consFirst (s part : List Char) (parts : List (List Char)) :
    s.foldr consFirst (part :: parts) = (s ++ part) :: parts := by
  induction s with
  | nil => rfl
  | cons c s ih => rw [List.foldr_cons, ih]; rfl

/-- Closed texts between commas are the items of a list of arguments. -/
theorem argumentsOf_joinWith {items : List (List Char)} (some : items ≠ [])
    (closed : ∀ item ∈ items, Closed item) : argumentsOf (joinWith [','] items) = items := by
  unfold argumentsOf
  induction items with
  | nil => exact absurd rfl some
  | cons item items ih =>
    obtain ⟨escaped, passes⟩ := closed item List.mem_cons_self
    cases items with
    | nil =>
      have alone := argumentsFrom_pass passes []
      rw [List.append_nil, argumentsFrom, foldr_consFirst, List.append_nil] at alone
      exact alone
    | cons next items =>
      have rest := ih (List.cons_ne_nil _ _) fun d mem => closed d (List.mem_cons_of_mem _ mem)
      have comma : argumentsFrom ⟨false, escaped⟩ 0 (',' :: joinWith [','] (next :: items)) =
          [] :: argumentsFrom {} 0 (joinWith [','] (next :: items)) := rfl
      rw [joinWith, List.append_assoc, argumentsFrom_pass passes, List.singleton_append, comma,
        rest, foldr_consFirst, List.append_nil]
      exact List.cons_ne_nil _ _

/-- Closed texts between separators can stand between parentheses. -/
theorem inner_joinWith {c : Char} {separator : List Char} (ordinary : ∀ d ∈ c :: separator, Ordinary d)
    {items : List (List Char)} (closed : ∀ item ∈ items, Closed item) :
    Inner (joinWith (c :: separator) items) := by
  induction items with
  | nil => exact ⟨false, rfl⟩
  | cons item items ih =>
    have first := closed item List.mem_cons_self
    cases items with
    | nil => exact first.inner
    | cons next items =>
      obtain ⟨escaped, passes⟩ := first
      obtain ⟨escaped', rest⟩ := ih fun d mem => closed d (List.mem_cons_of_mem _ mem)
      refine ⟨escaped', ?_⟩
      rw [joinWith, List.append_assoc]
      · refine Quote.pass_append.2 ⟨_, Quote.pass_true passes, ?_⟩
        rw [List.cons_append, Quote.pass_ordinary_cons (ordinary c List.mem_cons_self) fun _ _ => rfl,
          Quote.pass_ordinary (fun d mem => ordinary d (List.mem_cons_of_mem _ mem)) fun _ _ => rfl]
        exact rest
      · exact List.cons_ne_nil _ _

/-- A text in parentheses is closed. -/
theorem closed_paren {s : List Char} (inner : Inner s) : Closed ('(' :: s ++ [')']) := by
  obtain ⟨escaped, passes⟩ := inner
  have opens : Quote.next {} '(' = {} := rfl
  have closes : Quote.next ⟨false, escaped⟩ ')' = {} := Quote.next_paren escaped (.inr rfl)
  refine ⟨false, Quote.pass_cons.2 ⟨1, .opens rfl rfl, ?_⟩⟩
  refine Quote.pass_append.2 ⟨_, Quote.pass_succ false passes, ?_⟩
  refine Quote.pass_cons.2 ⟨0, .closes (by rw [closes]) rfl rfl, ?_⟩
  rw [closes]
  rfl

/-- Ordinary characters without commas in front of a closed text keep it closed. -/
theorem Closed.ordinary_append {front s : List Char} (ordinary : ∀ c ∈ front, Ordinary c)
    (noComma : ',' ∉ front) (closed : Closed s) : Closed (front ++ s) := by
  obtain ⟨escaped, passes⟩ := closed
  exact ⟨escaped, (Quote.pass_ordinary ordinary (fun mem => absurd mem noComma) s).trans passes⟩

/-- Blanks stand only after quotes. -/
def Quoted (s : List Char) : Prop :=
  ∀ front c back, s = front ++ c :: back → Text.isBlank c = true → ∃ d ∈ front, isQuote d = true

theorem Quoted.cons {c : Char} {s : List Char} (solid : Text.isBlank c = false)
    (h : isQuote c = false → Quoted s) : Quoted (c :: s) := by
  intro front d back form blank
  cases front with
  | nil =>
    cases form
    rw [solid] at blank
    cases blank
  | cons f front =>
    obtain ⟨rfl, rest⟩ := List.cons.inj form
    cases quote : isQuote c with
    | true => exact ⟨c, List.mem_cons_self, quote⟩
    | false =>
      obtain ⟨d, mem, found⟩ := h quote front d back rest blank
      exact ⟨d, List.mem_cons_of_mem _ mem, found⟩

/-- A word without blanks. -/
theorem Quoted.of_solid {s : List Char} (solid : ∀ c ∈ s, Text.isBlank c = false) : Quoted s := by
  intro front c back form blank
  rw [solid c (form ▸ List.mem_append_right _ List.mem_cons_self)] at blank
  cases blank

theorem Quoted.nil : Quoted [] :=
  .of_solid fun _ mem => absurd mem List.not_mem_nil

/-- In the items of a list of arguments, blanks stand only after quotes. -/
theorem quoted_argumentsFrom (q : Quote) (depth : Nat) (s : List Char) :
    ∃ first rest, argumentsFrom q depth s = first :: rest ∧ (q.inside = false → Quoted first) ∧
      ∀ item ∈ rest, Quoted item := by
  induction s generalizing q depth with
  | nil => exact ⟨[], [], rfl, fun _ => .nil, fun _ mem => absurd mem List.not_mem_nil⟩
  | cons c s ih =>
    obtain ⟨first, rest, form, quoted, others⟩ := ih (q.next c) (q.opened depth c)
    rw [argumentsFrom_cons, form]
    split
    · next comma =>
      refine ⟨[], first :: rest, rfl, fun _ => .nil, ?_⟩
      exact List.forall_mem_cons.2 ⟨quoted comma.1, others⟩
    · split
      · next blank => exact ⟨first, rest, rfl, fun _ => quoted blank.1, others⟩
      · next kept =>
        refine ⟨c :: first, rest, rfl, fun outside => ?_, others⟩
        have solid : Text.isBlank c = false := by
          cases blank : Text.isBlank c with
          | false => rfl
          | true =>
            exact absurd ⟨(Quote.next_inside_of_isBlank blank).trans outside, blank⟩ kept
        refine .cons solid fun noQuote => quoted ?_
        simpa [Quote.next, noQuote] using outside

theorem quoted_of_mem_argumentsOf {item s : List Char} (mem : item ∈ argumentsOf s) :
    Quoted item := by
  obtain ⟨first, rest, form, quoted, others⟩ := quoted_argumentsFrom {} 0 s
  rw [argumentsOf, form] at mem
  rcases List.mem_cons.1 mem with rfl | mem
  · exact quoted rfl
  · exact others item mem

end TagRules
