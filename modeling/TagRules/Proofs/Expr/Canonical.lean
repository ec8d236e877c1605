import TagRules.Proofs.Expr.Inverse

/-!
# Canonical trees

`Expr.Canonical` are the conditions with arguments that their canonical text spells without
ambiguity: texts without quotes, numbers within the limits, words that are nothing else. They need
not come from a text. The compiler yields the tree again from its canonical text.
-/

namespace TagRules

/-- An argument that is spelled without ambiguity. -/
def Operand.Canonical : Operand → Prop
  | .text s => (∀ c ∈ s.toList, isQuote c = false) ∧ s.toList.getLast? ≠ some '\\'
  | .number n => n.Writable
  | .keyword _ => True
  | .bare word =>
    word ≠ "" ∧
      (∀ c ∈ word.toList, Text.isBlank c = false ∧ isQuote c = false ∧ c ∉ [',', '(', ')']) ∧
      word.toList.head? ≠ some '{' ∧ Compile.number? word.toList = none ∧
      Keyword.ofWord? word.toList = none
  | .expr _ => True

/-- A literal alone, or a condition in which literals stand below negations only. -/
def Expr.Canonical (e : Expr) : Prop :=
  (∃ b, e = .literal (.bool b)) ∨ e.Formed Operand.Canonical ∧ e.kind = .bool

/-- Every quote of a text is escaped. -/
def Quote.Masked (q : Quote) : List Char → Prop
  | [] => True
  | c :: rest => (isQuote c = true → q.escaped = true) ∧ (q.next c).Masked rest

instance Quote.decidableMasked (q : Quote) : (s : List Char) → Decidable (q.Masked s)
  | [] => inferInstanceAs (Decidable True)
  | c :: rest =>
    have := decidableMasked (q.next c) rest
    inferInstanceAs (Decidable (_ ∧ _))

theorem Quote.masked_of_noQuote {s : List Char} (noQuote : ∀ c ∈ s, isQuote c = false) (q : Quote) :
    q.Masked s := by
  induction s generalizing q with
  | nil => trivial
  | cons c s ih =>
    refine ⟨fun quote => ?_, ih (fun d mem => noQuote d (List.mem_cons_of_mem _ mem)) _⟩
    simp [noQuote c List.mem_cons_self] at quote

/-- An escaped quote neither begins nor ends a literal. -/
theorem Quote.next_of_masked {q : Quote} {c : Char} (masked : isQuote c = true → q.escaped = true) :
    q.next c = ⟨q.inside, c = '\\'⟩ := by
  cases quote : isQuote c with
  | false => simp [Quote.next, quote]
  | true => simp [Quote.next, quote, masked quote]

/-- A text whose quotes are escaped ends where it began, within a literal or outside. -/
theorem Quote.Masked.after_eq {s : List Char} {q : Quote} (masked : q.Masked s) :
    q.after s = ⟨q.inside, (s.getLast?.map (decide <| · = '\\')).getD q.escaped⟩ := by
  induction s generalizing q with
  | nil => rfl
  | cons c s ih =>
    rw [Quote.after, List.foldl_cons]
    refine (ih masked.2).trans ?_
    rw [next_of_masked masked.1]
    cases s <;> rfl

/-- Whatever stands within a literal passes. -/
theorem Quote.Masked.pass_inside {commas : Bool} {s : List Char} {q : Quote} (masked : q.Masked s)
    (inside : q.inside = true) (depth : Nat) : q.pass commas depth s = some (q.after s, depth) := by
  induction s generalizing q with
  | nil => rfl
  | cons c s ih =>
    have next : (q.next c).inside = true := by rw [next_of_masked masked.1, inside]
    exact pass_cons.2 ⟨depth, .inside next, ih masked.2 next⟩

/-- A text whose quotes are escaped, and that does not end with a backslash, is closed by its quotes.
-/
theorem closed_quoted {s : List Char} (masked : Quote.Masked ⟨true, false⟩ s)
    (last : s.getLast? ≠ some '\\') : Closed ('"' :: s ++ ['"']) := by
  have opens : Quote.next {} '"' = ⟨true, false⟩ := rfl
  have plain : (s.getLast?.map (decide <| · = '\\')).getD false = false := by
    cases h : s.getLast? with
    | none => rfl
    | some c =>
      have other : c ≠ '\\' := by
        rintro rfl
        exact last h
      simp [other]
  refine ⟨false, Quote.pass_cons.2 ⟨0, .inside (by rw [opens]), ?_⟩⟩
  rw [opens]
  refine Quote.pass_append.2 ⟨_, masked.pass_inside rfl 0, ?_⟩
  rw [masked.after_eq, plain]
  rfl

/-- A word without blanks, quotes, commas and parentheses is closed. -/
theorem closed_word {s : List Char}
    (plain : ∀ c ∈ s, Text.isBlank c = false ∧ isQuote c = false ∧ c ∉ [',', '(', ')']) :
    Closed s := by
  have passes (q : Quote) (outside : q.inside = false) :
      q.pass false 0 s = some (q.after s, 0) := by
    induction s generalizing q with
    | nil => rfl
    | cons c s ih =>
      obtain ⟨solid, quote, sign⟩ := plain c List.mem_cons_self
      simp only [List.mem_cons, List.not_mem_nil, or_false, not_or] at sign
      have next := (Quote.next_of_not_isQuote (q := q) quote).trans outside
      refine Quote.pass_cons.2 ⟨0, .plain next sign.2.1 sign.2.2 solid ?_, ?_⟩
      · exact fun comma => absurd comma sign.1
      · exact ih (fun d mem => plain d (List.mem_cons_of_mem _ mem)) _ next
  have closes := passes {} rfl
  rw [(Quote.masked_of_noQuote (fun c mem => (plain c mem).2.1) _).after_eq] at closes
  exact ⟨_, closes⟩

/-- What is spelled without ambiguity can be read again. -/
theorem Operand.Canonical.legible {a : Operand} (h : a.Canonical) : a.Legible := by
  cases a with
  | text s => exact closed_quoted (Quote.masked_of_noQuote h.1 _) h.2
  | number n => exact h
  | keyword k => trivial
  | bare word =>
    obtain ⟨some, plain, brace, number, keyword⟩ := h
    have nonempty : word.toList ≠ [] := fun none => some (String.toList_eq_nil_iff.1 none)
    have quoted : Quoted word.toList := .of_solid fun c mem => (plain c mem).1
    refine ⟨closed_word plain, ⟨nonempty, quoted, ?_, brace, fun paren => ?_⟩, fun d => ⟨d, ?_⟩⟩
    · cases form : word.toList with
      | nil => rfl
      | cons c rest => exact (plain c (form ▸ List.mem_cons_self)).2.1
    · exact (plain '(' paren).2.2 (by decide)
    · cases digit : (word.toList.head?.map Digits.isDigit).getD false with
      | true => simpa using Compile.Word.digits (d := d) number digit
      | false => simpa using Compile.Word.bare (d := d) number digit keyword
  | expr e => trivial

/-- The canonical text of a canonical tree is compiled to the tree, with the patterns that the texts
in it stand for. -/
theorem Expr.Canonical.compiles_back {e : Expr} (h : e.Canonical) :
    ∃ c, compile none e.canonical = .ok c ∧ c.expr = e.prepared := by
  rcases h with ⟨b, rfl⟩ | ⟨formed, kind⟩
  · exact compile_canonical_literal b
  · exact (formed.imp fun _ => Operand.Canonical.legible).compile_canonical kind

/-- A condition with a literal below a negation, numbers, texts that look like operators, a word and
a call among the arguments of another one. -/
def Expr.mixed : Expr :=
  .or [
    .not (.literal (.bool true)),
    .and [
      .call .isGE "isGE"
        [.keyword .age, .expr (.call .hoursToSeconds "h2s" [.number (.ofNat 36)] none)] none,
      .call .isLT "isLT" [.bare "12x", .number .infinity] none],
    .call .matching "matches" [.keyword .name, .text "a||(b, c"] none]

theorem Expr.mixed_canonical : mixed.Canonical := by
  have hours : (Expr.call .hoursToSeconds "h2s" [.number (.ofNat 36)] none).Formed
      Operand.Canonical :=
    .call (by decide +kernel) rfl rfl trivial
      (List.forall_mem_singleton.2 (show Double.Writable _ by decide +kernel)) (by simp)
  have late : (Expr.call .isGE "isGE"
      [.keyword .age, .expr (.call .hoursToSeconds "h2s" [.number (.ofNat 36)] none)] none).Formed
      Operand.Canonical := by
    refine .call (by decide +kernel) rfl rfl trivial
      (List.forall_mem_cons.2 ⟨trivial, List.forall_mem_singleton.2 trivial⟩) fun e mem => ?_
    have same : e = .call .hoursToSeconds "h2s" [.number (.ofNat 36)] none := by simpa using mem
    exact same ▸ hours
  have bounded : (Expr.call .isLT "isLT" [.bare "12x", .number .infinity] none).Formed
      Operand.Canonical := by
    refine .call (by decide +kernel) rfl rfl trivial
      (List.forall_mem_cons.2 ⟨?_, List.forall_mem_singleton.2 (.inl rfl)⟩) (by simp)
    exact ⟨by decide, by decide, by decide, by decide +kernel, by decide +kernel⟩
  have matched : (Expr.call .matching "matches" [.keyword .name, .text "a||(b, c"] none).Formed
      Operand.Canonical := by
    refine .call (by decide +kernel) rfl rfl trivial
      (List.forall_mem_cons.2 ⟨trivial, List.forall_mem_singleton.2 ⟨?_, ?_⟩⟩) (by simp)
    · decide
    · decide
  have both : (Expr.and [_, _]).Formed Operand.Canonical :=
    .combination Compile.and_mem (by decide)
      (List.forall_mem_cons.2 ⟨late, List.forall_mem_singleton.2 bounded⟩)
      (List.forall_mem_cons.2 ⟨rfl, List.forall_mem_singleton.2 rfl⟩)
  refine .inr ⟨.combination Compile.or_mem (by decide) ?_ ?_, rfl⟩
  · exact List.forall_mem_cons.2 ⟨.notLiteral true, List.forall_mem_cons.2 ⟨both,
      List.forall_mem_singleton.2 matched⟩⟩
  · exact List.forall_mem_cons.2 ⟨rfl, List.forall_mem_cons.2 ⟨rfl,
      List.forall_mem_singleton.2 rfl⟩⟩

theorem Expr.mixed_compiles_back :
    mixed.Canonical ∧ ∃ c, compile none mixed.canonical = .ok c ∧ c.expr = mixed.prepared :=
  ⟨mixed_canonical, mixed_canonical.compiles_back⟩

/-- A negated number is refused although the negation is a condition. -/
theorem Expr.not_countTag_refused :
    (Expr.call .countTag "countTag" [.text "x"] none).Formed Operand.Canonical ∧
      (Expr.not (.call .countTag "countTag" [.text "x"] none)).kind = .bool ∧
      ∀ c, compile none (Expr.not (.call .countTag "countTag" [.text "x"] none)).canonical ≠
        .ok c := by
  refine ⟨.call (by decide +kernel) rfl rfl trivial ?_ ?_, rfl, fun c compiled => ?_⟩
  · intro a mem
    rw [List.mem_singleton.1 mem]
    exact ⟨by decide, by decide⟩
  · intro e mem
    cases List.mem_singleton.1 mem
  · have refused : (compile none
        (Expr.not (.call .countTag "countTag" [.text "x"] none)).canonical).isOk = false := by
      decide +kernel
    rw [compiled] at refused
    cases refused

end TagRules
