import TagRules.Proofs.Expr.Local
import TagRules.Proofs.Expr.Pieces

/-!
# Operands as they are written

A `Term` is the tree of an operand: a word, a text literal, or a call whose arguments are terms
again. Its text is closed, so the cuts leave it whole, and flattening puts a placeholder in the
place of the arguments of a call (`Term.flat`). `Term.meaning` is the step of compiling that a term
stands for.
-/

namespace TagRules

/-- An operand as it is written. -/
inductive Term where
  /-- A number, a keyword or another word without quotes. -/
  | word (s : List Char)
  /-- A text literal with its quotes. -/
  | literal (opening : Char) (inner : List Char) (closing : Char)
  | call (name : String) (args : List Term)

mutual

/-- The text of a term, without blanks outside of literals. -/
def Term.text : Term → List Char
  | .word s => s
  | .literal opening inner closing => opening :: inner ++ [closing]
  | .call name args => name.toList ++ '(' :: joinWith [','] (termTexts args) ++ [')']

/-- The texts of several terms. -/
def termTexts : List Term → List (List Char)
  | [] => []
  | t :: args => t.text :: termTexts args

end

mutual

/-- What a term stands for once it is compiled. -/
def Term.meaning (tags : Option TagStore) : Term → Compile Operand
  | .word s => Compile.word s
  | .literal _ inner _ => return .text (String.ofList inner)
  | .call name args => do
    let values ← termMeanings tags args
    let e ← Compile.call tags name.toList values
    return .expr e

/-- What several terms stand for. -/
def termMeanings (tags : Option TagStore) : List Term → Compile (List Operand)
  | [] => return []
  | t :: args => do
    let value ← t.meaning tags
    let values ← termMeanings tags args
    return value :: values

end

/-- The characters of operators. -/
def operatorSigns : List Char :=
  ['|', '&', '^', '=', '!', '<', '>']

/-- A character of a word: no quote, blank, bracket or comma, and not of an operator. -/
def Term.Plain (c : Char) : Prop :=
  isQuote c = false ∧ Text.isBlank c = false ∧ c ∉ ['(', ')', '{', '\x7d', ','] ∧ c ∉ operatorSigns

instance Term.decidablePlain (c : Char) : Decidable (Term.Plain c) :=
  inferInstanceAs (Decidable (_ ∧ _))

/-- A term whose words, literals and names are such. -/
inductive Term.Proper : Term → Prop
  | word {s} (some : s ≠ []) (plain : ∀ c ∈ s, Term.Plain c) : Proper (.word s)
  | literal {opening inner closing} (opens : isQuote opening = true)
    (closes : isQuote closing = true) (plain : ∀ c ∈ inner, isQuote c = false ∧ c ≠ '\\') :
    Proper (.literal opening inner closing)
  | call {name args f} (named : Builtin.ofName? name = some f) (each : ∀ t ∈ args, Proper t) :
    Proper (.call name args)

/-- A placeholder for the arguments of the term, if it is a call, would stand for exactly one value.
-/
def Term.Single : Term → Prop
  | .call _ args => args.length = 1
  | _ => True

/-- The flat text of a term, whose arguments are in a slot if it is a call. -/
def Term.flat (n : Nat) : Term → List Char
  | .call name _ => name.toList ++ '(' :: Compile.placeholder n ++ [')']
  | t => t.text

/-- The pieces that a term is cut into. -/
def Term.pieces : Term → List Piece
  | .call name args => name.toList.map .plain ++ [.arguments (joinWith [','] (termTexts args))]
  | t => t.text.map .plain

/-- The arguments of the term, if it is a call, are in a slot, perhaps with blanks between them. -/
def Term.Held (slots : List Slot) (n : Nat) : Term → Prop
  | .call _ args => ∃ inner, solid inner = joinWith [','] (termTexts args) ∧
      slots[n]? = some (.arguments inner)
  | _ => True

theorem termTexts_eq (args : List Term) : termTexts args = args.map (·.text) := by
  induction args with
  | nil => rfl
  | cons t args ih => rw [termTexts, ih]; rfl

theorem termMeanings_eq (tags : Option TagStore) (args : List Term) :
    termMeanings tags args = args.mapM (·.meaning tags) := by
  induction args with
  | nil => rfl
  | cons t args ih => rw [termMeanings, ih, List.mapM_cons]

mutual

/-- What a term stands for has nothing to do with slots. -/
theorem Term.local_meaning (tags : Option TagStore) : (t : Term) → Compile.Local (t.meaning tags)
  | .word s => .word s
  | .literal .. => .pure _
  | .call .. => .bind (local_termMeanings tags _) fun _ => .bind (.call ..) fun _ => .pure _

theorem local_termMeanings (tags : Option TagStore) :
    (args : List Term) → Compile.Local (termMeanings tags args)
  | [] => .pure _
  | t :: args =>
    .bind (t.local_meaning tags) fun _ => .bind (local_termMeanings tags args) fun _ => .pure _

end

/-- A quote has no other meaning. -/
theorem not_sign_of_isQuote {c : Char} (quote : isQuote c = true) :
    c ∉ ['(', ')', '{', '\x7d', ','] ∧ c ∉ operatorSigns ∧ c ≠ '\\' ∧ Text.isBlank c = false := by
  simp only [isQuote, Bool.or_eq_true, decide_eq_true_eq] at quote
  rcases quote with (rfl | rfl) | rfl <;> decide

theorem not_sign_of_neutral {c : Char} (neutral : Neutral c) (other : c ≠ '!') :
    c ∉ operatorSigns := by
  intro sign
  simp only [operatorSigns, List.mem_cons, List.not_mem_nil, or_false] at sign
  rcases sign with rfl | rfl | rfl | rfl | rfl | rfl | rfl <;>
    first | exact other rfl | exact absurd neutral (by decide)

/-- A quote begins a literal. -/
theorem Quote.next_opening {c : Char} (quote : isQuote c = true) :
    Quote.next {} c = ⟨true, false⟩ := by
  simp [Quote.next, quote, (not_sign_of_isQuote quote).2.2.1]

/-- A quote ends a literal. -/
theorem Quote.next_closing {c : Char} (quote : isQuote c = true) :
    Quote.next ⟨true, false⟩ c = {} := by
  simp [Quote.next, quote, (not_sign_of_isQuote quote).2.2.1]

/-- Nothing but a quote or a backslash makes a difference within a literal. -/
theorem Quote.next_within {c : Char} (plain : isQuote c = false ∧ c ≠ '\\') :
    Quote.next ⟨true, false⟩ c = ⟨true, false⟩ := by
  simp [Quote.next, plain]

/-- The characters of a word pass. -/
theorem Quote.pass_plain {s : List Char} (plain : ∀ c ∈ s, Term.Plain c) (escaped : Bool) :
    ∃ escaped', Quote.pass false ⟨false, escaped⟩ 0 s = some (⟨false, escaped'⟩, 0) := by
  induction s generalizing escaped with
  | nil => exact ⟨escaped, rfl⟩
  | cons c s ih =>
    obtain ⟨quote, solid, bracket, -⟩ := plain c List.mem_cons_self
    have next : Quote.next ⟨false, escaped⟩ c = ⟨false, decide (c = '\\')⟩ := by
      simp [Quote.next, quote]
    obtain ⟨escaped', rest⟩ :=
      ih (fun d mem => plain d (List.mem_cons_of_mem _ mem)) (decide (c = '\\'))
    simp only [List.mem_cons, List.not_mem_nil, or_false, not_or] at bracket
    refine ⟨escaped', Quote.pass_cons.2 ⟨0, .plain (by rw [next]) bracket.1 bracket.2.1 solid ?_, ?_⟩⟩
    · exact fun comma => absurd comma bracket.2.2.2.2
    · rw [next]
      exact rest

/-- Within a literal, what is neither a quote nor a backslash leaves the place as it is. -/
theorem Quote.pass_within {s : List Char} (plain : ∀ c ∈ s, isQuote c = false ∧ c ≠ '\\') :
    Quote.pass false ⟨true, false⟩ 0 s = some (⟨true, false⟩, 0) := by
  induction s with
  | nil => rfl
  | cons c s ih =>
    have next := Quote.next_within (plain c List.mem_cons_self)
    refine Quote.pass_cons.2 ⟨0, .inside (by rw [next]), ?_⟩
    rw [next]
    exact ih fun d mem => plain d (List.mem_cons_of_mem _ mem)

theorem Quote.outside_within {p : Char → Prop} {s : List Char}
    (plain : ∀ c ∈ s, isQuote c = false ∧ c ≠ '\\') : Quote.Outside p ⟨true, false⟩ s := by
  induction s with
  | nil => trivial
  | cons c s ih =>
    have next := Quote.next_within (plain c List.mem_cons_self)
    refine ⟨fun out => ?_, ?_⟩
    · rw [next] at out
      cases out
    · rw [next]
      exact ih fun d mem => plain d (List.mem_cons_of_mem _ mem)

/-- Nothing of a literal is outside of it but the quote that ends it. -/
theorem Quote.outside_literal {p : Char → Prop} {opening closing : Char} {inner : List Char}
    (opens : isQuote opening = true) (plain : ∀ c ∈ inner, isQuote c = false ∧ c ≠ '\\')
    (last : p closing) : Quote.Outside p {} (opening :: inner ++ [closing]) := by
  have opened := Quote.next_opening opens
  refine ⟨fun out => ?_, ?_⟩
  · rw [opened] at out
    cases out
  · rw [opened]
    exact Quote.outside_append.2 ⟨Quote.outside_within plain, fun _ => last, trivial⟩

/-- No quote of an item, nor of several between commas, is escaped if none is in each of them. -/
theorem smooth_joinWith {items : List (List Char)} (closed : ∀ item ∈ items, Closed item)
    (smooth : ∀ item ∈ items, Quote.Smooth {} item) : Quote.Smooth {} (joinWith [','] items) := by
  induction items with
  | nil => trivial
  | cons item items ih =>
    have first := smooth item List.mem_cons_self
    cases items with
    | nil => exact first
    | cons next items =>
      obtain ⟨escaped, passes⟩ := closed item List.mem_cons_self
      have rest := ih (fun d mem => closed d (List.mem_cons_of_mem _ mem))
        fun d mem => smooth d (List.mem_cons_of_mem _ mem)
      rw [joinWith_cons _ _ (List.cons_ne_nil _ _), List.append_assoc]
      refine Quote.smooth_append.2 ⟨first, ?_⟩
      rw [Quote.after_of_pass passes]
      exact ⟨fun quote => absurd quote (by decide), rest⟩

namespace Term

/-- What stands between the parentheses of a call. -/
theorem closed_of_named {name : String} {f : Builtin} (named : Builtin.ofName? name = some f)
    {inner : List Char} (passes : Inner inner) : Closed (name.toList ++ '(' :: inner ++ [')']) := by
  obtain ⟨-, letters⟩ := Builtin.letters named
  rw [List.append_assoc]
  exact .ordinary_append (fun c mem => (letters c mem).1)
    (fun mem => (letters ',' mem).2.2.1 (by decide)) (closed_paren passes)

theorem smooth_of_named {name : String} {f : Builtin} (named : Builtin.ofName? name = some f)
    {inner : List Char} (smooth : Quote.Smooth {} inner) :
    Quote.Smooth {} (name.toList ++ '(' :: inner ++ [')']) := by
  obtain ⟨-, letters⟩ := Builtin.letters named
  rw [List.append_assoc]
  refine Quote.smooth_append.2 ⟨Quote.smooth_of_not_isQuote fun c mem => (letters c mem).1.1, ?_⟩
  rw [Quote.after_ordinary fun c mem => (letters c mem).1]
  refine ⟨fun quote => absurd quote (by decide), Quote.smooth_append.2 ⟨smooth, ?_⟩⟩
  exact ⟨fun quote => absurd quote (by decide), trivial⟩

namespace Proper

variable {t : Term}

theorem text_ne_nil (h : t.Proper) : t.text ≠ [] := by
  cases h with
  | word some => rwa [text]
  | literal => rw [text]; exact List.cons_ne_nil _ _
  | call => rw [text]; simp

theorem closed (h : t.Proper) : Closed t.text := by
  induction h with
  | word _ plain =>
    rw [text]
    exact Quote.pass_plain plain false
  | @literal opening inner closing opens closes plain =>
    obtain ⟨bracket, -, -, solid⟩ := not_sign_of_isQuote closes
    simp only [List.mem_cons, List.not_mem_nil, or_false, not_or] at bracket
    have opened := Quote.next_opening opens
    have closed := Quote.next_closing closes
    rw [text, List.cons_append]
    refine ⟨false, Quote.pass_cons.2 ⟨0, .inside (by rw [opened]), ?_⟩⟩
    rw [opened]
    refine Quote.pass_append.2 ⟨_, Quote.pass_within plain, Quote.pass_cons.2 ⟨0, ?_, ?_⟩⟩
    · exact .plain (by rw [closed]) bracket.1 bracket.2.1 solid
        fun comma => absurd comma bracket.2.2.2.2
    · rw [closed]
      rfl
  | call named each ih =>
    rw [text, termTexts_eq]
    refine closed_of_named named (inner_joinWith (by decide) fun item mem => ?_)
    obtain ⟨t, here, rfl⟩ := List.mem_map.1 mem
    exact ih t here

theorem smooth (h : t.Proper) : Quote.Smooth {} t.text := by
  induction h with
  | word _ plain => exact Quote.smooth_of_not_isQuote fun c mem => (plain c mem).1
  | @literal opening inner closing opens closes plain =>
    rw [text, List.cons_append]
    refine ⟨fun _ => rfl, ?_⟩
    rw [Quote.next_opening opens]
    refine Quote.smooth_append.2 ⟨Quote.smooth_of_not_isQuote fun c mem => (plain c mem).1, ?_⟩
    rw [Quote.after_of_pass (Quote.pass_within plain)]
    exact ⟨fun _ => rfl, trivial⟩
  | call named each ih =>
    rw [text, termTexts_eq]
    refine smooth_of_named named (smooth_joinWith (fun item mem => ?_) fun item mem => ?_)
    · obtain ⟨t, here, rfl⟩ := List.mem_map.1 mem
      exact (each t here).closed
    · obtain ⟨t, here, rfl⟩ := List.mem_map.1 mem
      exact ih t here

theorem flat_ne_nil (h : t.Proper) (n : Nat) : t.flat n ≠ [] := by
  cases h with
  | word some plain => exact (word some plain).text_ne_nil
  | literal opens closes plain => exact (literal opens closes plain).text_ne_nil
  | call => rw [flat]; simp

theorem closed_flat (h : t.Proper) (n : Nat) : Closed (t.flat n) := by
  cases h with
  | word some plain => exact (word some plain).closed
  | literal opens closes plain => exact (literal opens closes plain).closed
  | call named each => exact closed_of_named named (Compile.closed_placeholder n).inner

theorem smooth_flat (h : t.Proper) (n : Nat) : Quote.Smooth {} (t.flat n) := by
  cases h with
  | word some plain => exact (word some plain).smooth
  | literal opens closes plain => exact (literal opens closes plain).smooth
  | call named each =>
    exact smooth_of_named named (Quote.smooth_of_not_isQuote fun c mem =>
      (Compile.placeholder_ordinary n c mem).1.1)

/-- No sign of an operator is outside of the literals of a flat text. -/
theorem unsigned_flat (h : t.Proper) (n : Nat) : Quote.Outside (· ∉ operatorSigns) {} (t.flat n) := by
  cases h with
  | word some plain => exact Quote.outside_of_forall fun c mem => (plain c mem).2.2.2
  | @literal opening inner closing opens closes plain =>
    exact Quote.outside_literal opens plain (not_sign_of_isQuote closes).2.1
  | call named each =>
    obtain ⟨-, letters⟩ := Builtin.letters named
    rw [flat]
    refine Quote.outside_of_forall fun c mem => ?_
    simp only [List.mem_append, List.mem_cons, List.not_mem_nil, or_false] at mem
    rcases mem with (mem | rfl | mem) | rfl
    · exact not_sign_of_neutral (letters c mem).2.1 fun same => (letters c mem).2.2.1 (by simp [same])
    · decide
    · obtain ⟨-, neutral, other⟩ := Compile.placeholder_ordinary n c mem
      exact not_sign_of_neutral neutral fun same => other (by simp [same])
    · decide

/-- A flat text begins with nothing that another sign could go on with. -/
theorem head_flat (h : t.Proper) (n : Nat) : ∀ c ∈ (t.flat n).head?, c ≠ '=' := by
  intro c first
  obtain ⟨rest, form⟩ := List.head?_eq_some_iff.1 first
  have unsigned := h.unsigned_flat n
  rw [form] at unsigned
  rintro rfl
  exact unsigned.1 rfl (by decide)

theorem inside_flat (h : t.Proper) (n : Nat) : (Quote.after {} (t.flat n)).inside = false := by
  obtain ⟨escaped, passes⟩ := h.closed_flat n
  rw [Quote.after_of_pass passes]

/-- A term is cut into its pieces. -/
theorem piecesFrom_text (h : t.Proper) (rest : List Char) : ∃ afterName,
    piecesFrom {} false (t.text ++ rest) =
      consPieces t.pieces (piecesFrom (Quote.after {} t.text) afterName rest) := by
  cases h with
  | word some plain =>
    refine ⟨_, piecesFrom_outside (Quote.outside_of_forall fun c mem => ?_) false rest⟩
    obtain ⟨-, solid, bracket, -⟩ := plain c mem
    simp only [List.mem_cons, List.not_mem_nil, or_false, not_or] at bracket
    exact ⟨bracket.1, bracket.2.1, solid⟩
  | @literal opening inner closing opens closes plain =>
    obtain ⟨bracket, -, -, solid⟩ := not_sign_of_isQuote closes
    simp only [List.mem_cons, List.not_mem_nil, or_false, not_or] at bracket
    exact ⟨_, piecesFrom_outside (Quote.outside_literal opens plain ⟨bracket.1, bracket.2.1, solid⟩)
      false rest⟩
  | @call name args f named each =>
    obtain ⟨some, letters⟩ := Builtin.letters named
    have inner : Inner (joinWith [','] (termTexts args)) := by
      rw [termTexts_eq]
      refine inner_joinWith (by decide) fun item mem => ?_
      obtain ⟨t, here, rfl⟩ := List.mem_map.1 mem
      exact (each t here).closed
    have cut := piecesFrom_call some letters inner rest
    have place : Quote.after {} (Term.call name args).text = {} := by
      obtain ⟨escaped, passes⟩ := (call named each).closed
      have outside := congrArg Quote.inside (Quote.after_of_pass passes)
      rw [text, Quote.after_append] at outside ⊢
      exact Quote.next_eq outside (by decide)
    refine ⟨false, ?_⟩
    rw [place, text, pieces]
    simpa [consPieces, consPiece] using cut

end Proper

end Term

end TagRules
