import Mathlib.Data.List.TakeWhile
import TagRules.Expr.Compiler
import TagRules.Proofs.Expr.Scan

/-!
# What the cuts lose

The cuts of a text lose nothing but blanks and the signs that they cut at: put together again, the
parts are the text (`joinWith_splitAt`, `named?_eq_some`), or the text without some of its blanks
(`sheds_trim`, `sheds_piecesOf`). How a text is split at a separator and how it is cut at its
parentheses are relations (`Splits`, `Pieced`) with a rule for each way to go on.
-/

namespace TagRules

theorem Quote.after_append {q : Quote} {s t : List Char} :
    q.after (s ++ t) = (q.after s).after t :=
  List.foldl_append

/-- A text loses some of its blanks. -/
inductive Sheds : List Char → List Char → Prop
  | nil : Sheds [] []
  | keep {s t} (c : Char) (rest : Sheds s t) : Sheds (c :: s) (c :: t)
  | drop {c s t} (blank : Text.isBlank c = true) (rest : Sheds s t) : Sheds (c :: s) t

namespace Sheds

variable {s s' t t' : List Char}

theorem refl (s : List Char) : Sheds s s := by
  induction s with
  | nil => exact .nil
  | cons c s ih => exact .keep c ih

theorem append (first : Sheds s t) (second : Sheds s' t') : Sheds (s ++ s') (t ++ t') := by
  induction first with
  | nil => exact second
  | keep c _ ih => exact .keep c ih
  | drop blank _ ih => exact .drop blank ih

theorem of_blank (blank : Text.blank s = true) : Sheds s [] := by
  induction s with
  | nil => exact .nil
  | cons c s ih =>
    simp only [Text.blank, List.all_cons, Bool.and_eq_true] at blank
    exact .drop blank.1 (ih blank.2)

/-- Blanks are lost behind a text without them. -/
theorem of_solid_append {front : List Char} (solid : ∀ c ∈ front, Text.isBlank c = false)
    (h : Sheds (front ++ s) t) : ∃ t', t = front ++ t' ∧ Sheds s t' := by
  induction front generalizing t with
  | nil => exact ⟨t, rfl, h⟩
  | cons c front ih =>
    cases h with
    | keep _ rest =>
      obtain ⟨t', rfl, lost⟩ := ih (fun d mem => solid d (List.mem_cons_of_mem _ mem)) rest
      exact ⟨t', rfl, lost⟩
    | drop blank => exact absurd blank (by simp [solid c List.mem_cons_self])

/-- A word without blanks has none to lose. -/
theorem holds_word {word : List Char} (lost : Sheds s t) (some : word ≠ [])
    (solid : ∀ c ∈ word, Text.isBlank c = false) (h : word <:+: s) : word <:+: t := by
  induction lost with
  | nil => exact h
  | @keep s t c rest ih =>
    rcases List.infix_cons_iff.1 h with ⟨back, first⟩ | later
    · have whole : Sheds (word ++ back) (c :: t) := first ▸ .keep c rest
      obtain ⟨back', same, -⟩ := whole.of_solid_append solid
      exact ⟨[], back', same.symm⟩
    · exact List.infix_cons (ih later)
  | @drop c s t blank rest ih =>
    rcases List.infix_cons_iff.1 h with ⟨back, first⟩ | later
    · obtain ⟨d, word, rfl⟩ := List.exists_cons_of_ne_nil some
      obtain ⟨rfl, -⟩ := List.cons.inj first
      exact absurd blank (by simp [solid d List.mem_cons_self])
    · exact ih later

end Sheds

/-- Trimming drops blanks at the ends. -/
theorem Text.exists_trim (s : List Char) :
    ∃ front back, blank front = true ∧ blank back = true ∧ s = front ++ trim s ++ back := by
  have dropped (s : List Char) : blank (s.takeWhile isBlank) = true :=
    List.all_eq_true.2 fun c mem => List.mem_takeWhile_imp mem
  refine ⟨s.takeWhile isBlank, ((trimStart s).reverse.takeWhile isBlank).reverse, dropped s, ?_, ?_⟩
  · rw [blank, List.all_reverse]
    exact dropped _
  · rw [trim, trimEnd, List.append_assoc, ← List.reverse_append, List.takeWhile_append_dropWhile,
      List.reverse_reverse, trimStart, List.takeWhile_append_dropWhile]

theorem sheds_trim (s : List Char) : Sheds s (Text.trim s) := by
  obtain ⟨front, back, blank, blank', form⟩ := Text.exists_trim s
  have whole := ((Sheds.of_blank blank).append (.refl (Text.trim s))).append (.of_blank blank')
  rwa [← form, List.nil_append, List.append_nil] at whole

theorem joinWith_cons (separator part : List Char) {parts : List (List Char)} (some : parts ≠ []) :
    joinWith separator (part :: parts) = part ++ separator ++ joinWith separator parts := by
  obtain ⟨next, rest, rfl⟩ := List.exists_cons_of_ne_nil some
  rw [joinWith]
  exact List.cons_ne_nil _ _

theorem joinWith_consFirst (separator : List Char) (c : Char) (parts : List (List Char)) :
    joinWith separator (consFirst c parts) = c :: joinWith separator parts := by
  cases parts with
  | nil => rfl
  | cons part parts =>
    cases parts with
    | nil => rfl
    | cons next parts =>
      rw [consFirst, joinWith_cons _ _ (List.cons_ne_nil _ _),
        joinWith_cons _ _ (List.cons_ne_nil _ _)]
      rfl

theorem consFirst_ne_nil (c : Char) (parts : List (List Char)) : consFirst c parts ≠ [] := by
  cases parts <;> exact List.cons_ne_nil _ _

theorem argumentsFrom_ne_nil (q : Quote) (depth : Nat) (s : List Char) :
    argumentsFrom q depth s ≠ [] := by
  induction s generalizing q depth with
  | nil => exact List.cons_ne_nil _ _
  | cons c s ih =>
    rw [argumentsFrom_cons]
    split
    · exact List.cons_ne_nil _ _
    · split
      · exact ih _ _
      · exact consFirst_ne_nil _ _

/-- A text is cut into parts at separators, all of them outside of literals. -/
inductive Cuts (separator : List Char) : Quote → List Char → List (List Char) → Prop
  | last {q s} : Cuts separator q s [s]
  | more {q s t parts} (outside : (q.after s).inside = false)
    (rest : Cuts separator ((q.after s).after separator) t parts) :
    Cuts separator q (s ++ (separator ++ t)) (s :: parts)

namespace Cuts

variable {separator s : List Char} {q : Quote} {c : Char} {parts : List (List Char)}

theorem ne_nil (h : Cuts separator q s parts) : parts ≠ [] := by
  cases h <;> exact List.cons_ne_nil _ _

theorem consFirst (h : Cuts separator (q.next c) s parts) :
    Cuts separator q (c :: s) (consFirst c parts) := by
  cases h with
  | last => exact .last
  | @more _ s t parts outside rest =>
    have whole : Cuts separator q (c :: s ++ (separator ++ t)) ((c :: s) :: parts) :=
      .more outside rest
    exact whole

/-- The parts of a text, with the separators between them, are the text. -/
theorem joinWith_eq (h : Cuts separator q s parts) : joinWith separator parts = s := by
  induction h with
  | last => rfl
  | more _ rest ih => rw [joinWith_cons _ _ rest.ne_nil, ih, List.append_assoc]

end Cuts

/-- How a text is split: a separator outside of literals stands between two parts, and any other character is
in one. -/
inductive Splits (separator : List Char) : Quote → List Char → List (List Char) → Prop
  | done {q} : Splits separator q [] [[]]
  | sign {q s parts} (outside : q.inside = false)
    (later : Splits separator (q.after separator) s parts) :
    Splits separator q (separator ++ s) ([] :: parts)
  | kept {q c s parts} (other : (q.next c).inside = false → ¬separator <+: c :: s)
    (later : Splits separator (q.next c) s parts) : Splits separator q (c :: s) (consFirst c parts)

/-- A sign that texts are split at has neither quotes nor backslashes. -/
structure Separating (separator : List Char) : Prop where
  some : separator ≠ []
  plain : ∀ c ∈ separator, isQuote c = false ∧ c ≠ '\\'

theorem Compile.Combination.separating {separator : List Char} {combine : List Expr → Expr}
    (h : Combination separator combine) : Separating separator := by
  cases h <;> exact ⟨by decide, by decide⟩

theorem splits_splitFrom {separator : List Char} (sign : Separating separator) (q : Quote)
    (skip : Nat) (s : List Char) :
    Splits separator (q.after (s.take skip)) (s.drop skip) (splitFrom separator q skip s) := by
  induction s generalizing q skip with
  | nil =>
    rw [List.drop_nil, splitFrom]
    exact .done
  | cons c s ih =>
    rw [splitFrom.eq_def]
    cases skip with
    | succ skip => exact ih (q.next c) skip
    | zero =>
      simp only []
      split
      · next found =>
        simp only [Bool.and_eq_true, Bool.not_eq_true'] at found
        obtain ⟨rest, form⟩ := List.isPrefixOf_iff_prefix.1 found.2
        obtain ⟨d, back, rfl⟩ := List.exists_cons_of_ne_nil sign.some
        obtain ⟨rfl, after⟩ := List.cons.inj form
        have after : s = back ++ rest := after.symm
        have outside : q.inside = false := by
          rw [← found.1, Quote.next, (sign.plain d List.mem_cons_self).1]
          rfl
        have later := ih (q.next d) back.length
        rw [after, List.take_left, List.drop_left] at later
        rw [after]
        exact .sign outside later
      · next other =>
        have other : (q.next c).inside = false → ¬separator <+: c :: s := by simpa using other
        exact .kept other (ih (q.next c) 0)

theorem splits_splitAt {separator : List Char} (sign : Separating separator) (s : List Char) :
    Splits separator {} s (splitAt separator s) :=
  splits_splitFrom sign {} 0 s

/-- A text is split at separators outside of literals. -/
theorem Splits.cuts {separator s : List Char} {q : Quote} {parts : List (List Char)}
    (h : Splits separator q s parts) : Cuts separator q s parts := by
  induction h with
  | done => exact .last
  | @sign q s parts outside _ ih =>
    have whole : Cuts separator q ([] ++ (separator ++ s)) ([] :: parts) := .more outside ih
    exact whole
  | kept _ _ ih => exact ih.consFirst

theorem joinWith_splitAt {separator : List Char} (sign : Separating separator) (s : List Char) :
    joinWith separator (splitAt separator s) = s :=
  (splits_splitAt sign s).cuts.joinWith_eq

/-- A name and a key in parentheses stand at the end of a text. -/
theorem named?_eq_some {s name key : List Char} (h : Compile.named? s = some (name, key)) :
    ∃ inner, key = Text.trim inner ∧ name ≠ [] ∧ '(' ∉ name ∧ s = name ++ ('(' :: inner ++ [')']) := by
  unfold Compile.named? at h
  simp only [] at h
  split at h
  · next rest after =>
    rw [Option.ite_none_right_eq_some] at h
    obtain ⟨both, same⟩ := h
    cases same
    simp only [Bool.and_eq_true, Bool.not_eq_true', decide_eq_true_eq] at both
    obtain ⟨inner, rfl⟩ := List.getLast?_eq_some_iff.1 both.2
    refine ⟨inner, by rw [List.dropLast_concat], ?_, fun mem => ?_, ?_⟩
    · simpa using both.1
    · simpa using List.mem_takeWhile_imp mem
    · rw [List.cons_append, ← after, List.takeWhile_append_dropWhile]
  · cases h

/-- The text of pieces. -/
def Piece.text : Piece → List Char
  | plain c => [c]
  | arguments inner => '(' :: inner ++ [')']
  | group inner => '(' :: inner ++ [')']

/-- What is in the parentheses of a piece. -/
def Piece.inside? : Piece → Option (List Char)
  | plain _ => none
  | arguments inner => some inner
  | group inner => some inner

/-- How a text is cut at its parentheses, from a place outside of them. -/
inductive Pieced : Quote → Bool → List Char → List Piece × Ending → Prop
  | done {q afterName} :
    Pieced q afterName [] ([], if q.inside then .missingQuote else .complete)
  | plain {q afterName c s r}
    (kept : (q.next c).inside = false → c ≠ '(' ∧ c ≠ ')' ∧ Text.isBlank c = false)
    (later : Pieced (q.next c) (Text.isLetterOrDigit c) s r) :
    Pieced q afterName (c :: s) (consPiece (.plain c) r)
  | blank {q afterName c s r} (outside : (q.next c).inside = false) (blank : Text.isBlank c = true)
    (later : Pieced (q.next c) afterName s r) : Pieced q afterName (c :: s) r
  | paren {q afterName inner s r} (opens : (q.next '(').inside = false)
    (closes : (Quote.after {} inner).inside = false) (later : Pieced {} false s r) :
    Pieced q afterName ('(' :: (inner ++ ')' :: s)) (consPiece
      (if afterName then .arguments (Text.trim inner) else .group (Text.trim inner)) r)
  | extraClose {q afterName s} (outside : (q.next ')').inside = false) :
    Pieced q afterName (')' :: s) ([], .extraClose)
  | missingClose {q afterName s} (opens : (q.next '(').inside = false) :
    Pieced q afterName ('(' :: s) ([], .missingClose)

/-- Behind parentheses, the place is the one at the start. -/
theorem Quote.after_paren {q : Quote} {inner : List Char} (opens : (q.next '(').inside = false)
    (closes : (Quote.after {} inner).inside = false) : q.after ('(' :: inner ++ [')']) = {} := by
  have start : q.next '(' = {} := next_eq opens (by decide)
  rw [List.cons_append, after, List.foldl_cons, start]
  exact after_append.trans (next_eq (by simpa [next, isQuote] using closes) (by decide))

/-- How a text is cut from a place within parentheses, given the text since the outermost one in reverse. -/
inductive Enclosing (q : Quote) (afterName : Bool) (before s : List Char) : List Piece × Ending → Prop
  | closed {inner rest r} (form : s = inner ++ ')' :: rest) (closes : (q.after inner).inside = false)
    (later : Pieced {} false rest r) : Enclosing q afterName before s (consPiece
      (if afterName then .arguments (Text.trim (before.reverse ++ inner))
        else .group (Text.trim (before.reverse ++ inner))) r)
  | missing : Enclosing q afterName before s ([], .missingClose)

theorem Enclosing.cons {q : Quote} {afterName : Bool} {c : Char} {before s : List Char}
    {r : List Piece × Ending} (h : Enclosing (q.next c) afterName (c :: before) s r) :
    Enclosing q afterName before (c :: s) r := by
  cases h with
  | @closed inner rest r form closes later =>
    rw [List.reverse_cons, List.append_assoc, List.singleton_append]
    have longer : c :: s = c :: inner ++ ')' :: rest := congrArg (c :: ·) form
    exact .closed longer closes later
  | missing => exact .missing

theorem pieced_piecesFrom (s : List Char) :
    (∀ q afterName, Pieced q afterName s (piecesFrom q afterName s)) ∧
    ∀ q afterName depth before,
      Enclosing q afterName before s (piecesWithin q afterName depth before s) := by
  induction s with
  | nil => exact ⟨fun _ _ => .done, fun _ _ _ _ => .missing⟩
  | cons c s ih =>
    obtain ⟨outside, within⟩ := ih
    constructor
    · intro q afterName
      rw [piecesFrom.eq_def]
      simp only []
      split
      · next inside => exact .plain (fun out => by simp [inside] at out) (outside _ _)
      · next out =>
        have out : (q.next c).inside = false := by simpa using out
        split
        · next opens =>
          subst opens
          rw [Quote.next_eq out (by decide)]
          have enclosing := within {} afterName 0 []
          generalize piecesWithin {} afterName 0 [] s = r at enclosing ⊢
          cases enclosing with
          | closed form closes later =>
            subst form
            exact .paren out closes later
          | missing => exact .missingClose out
        · next notOpen =>
          split
          · next closes =>
            subst closes
            exact .extraClose out
          · next notClose =>
            split
            · next blank => exact .blank out blank (outside _ _)
            · next solid =>
              exact .plain (fun _ => ⟨notOpen, notClose, by simpa using solid⟩) (outside _ _)
    · intro q afterName depth before
      rw [piecesWithin.eq_def]
      simp only []
      split
      · exact (within _ _ _ _).cons
      · next out =>
        have out : (q.next c).inside = false := by simpa using out
        split
        · exact (within _ _ _ _).cons
        · split
          · next closes =>
            subst closes
            cases depth with
            | succ depth => exact (within _ _ _ _).cons
            | zero =>
              have place : q.inside = false := (Quote.next_of_not_isQuote rfl).symm.trans out
              rw [Quote.next_eq out (by decide), ← List.append_nil before.reverse]
              exact .closed rfl place (outside _ _)
          · exact (within _ _ _ _).cons

theorem pieced_piecesOf (s : List Char) : Pieced {} false s (piecesOf s) :=
  (pieced_piecesFrom s).1 {} false

/-- A text that is cut loses some of its blanks, and what is behind the place where the cutting ends. -/
theorem Pieced.sheds {q : Quote} {afterName : Bool} {s : List Char} {r : List Piece × Ending}
    (h : Pieced q afterName s r) :
    ∃ rest, Sheds s (r.1.flatMap Piece.text ++ rest) ∧ (r.2 = .complete → rest = []) := by
  induction h with
  | done => exact ⟨[], .nil, fun _ => rfl⟩
  | @plain _ _ c _ _ _ _ ih =>
    obtain ⟨rest, sheds, complete⟩ := ih
    exact ⟨rest, .keep c sheds, complete⟩
  | blank _ blank _ ih =>
    obtain ⟨rest, sheds, complete⟩ := ih
    exact ⟨rest, .drop blank sheds, complete⟩
  | @paren _ afterName inner s r _ _ _ ih =>
    obtain ⟨rest, sheds, complete⟩ := ih
    refine ⟨rest, ?_, complete⟩
    have text : (if afterName = true then Piece.arguments (Text.trim inner)
        else .group (Text.trim inner)).text = '(' :: Text.trim inner ++ [')'] := by
      cases afterName <;> rfl
    have whole : Sheds ('(' :: (inner ++ ')' :: s)) _ :=
      .keep '(' ((sheds_trim inner).append (.keep ')' sheds))
    simp only [consPiece, List.flatMap_cons, text]
    simpa using whole
  | extraClose => exact ⟨_, .refl _, fun complete => by cases complete⟩
  | missingClose => exact ⟨_, .refl _, fun complete => by cases complete⟩

/-- The pieces of a text are the text without some blanks, or of its beginning where the cutting
does not come to the end. -/
theorem sheds_piecesOf (s : List Char) : ∃ rest,
    Sheds s ((piecesOf s).1.flatMap Piece.text ++ rest) ∧
      ((piecesOf s).2 = .complete → rest = []) :=
  (pieced_piecesOf s).sheds

end TagRules
