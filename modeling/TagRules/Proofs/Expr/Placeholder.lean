import TagRules.Proofs.Expr.Verbatim

/-!
# Placeholders in the cuts of a text

No cut of compiling separates the characters of a placeholder. A placeholder in a text is in one of
the parts that the text is cut into, at whatever signs this is done, and it is still there when
blanks are dropped or parentheses are replaced by placeholders of their own.
-/

namespace TagRules

namespace Compile

variable {n m : Nat} {s t sign : List Char}

theorem placeholder_ne_nil (n : Nat) : placeholder n ≠ [] :=
  List.cons_ne_nil _ _

theorem not_placeholder_nil : ¬placeholder n <:+: [] :=
  fun h => placeholder_ne_nil n (List.infix_nil.1 h)

/-- The brace of a placeholder is in no word that is read as something else. -/
theorem not_placeholder_of_inWord (plain : ∀ c ∈ s, InWord c) : ¬placeholder n <:+: s :=
  fun h => (plain '{' (h.subset List.mem_cons_self)).2.2 (by decide)

/-- A placeholder on one side of a character that it does not have. -/
theorem placeholder_beside {c : Char} (other : ¬InPlaceholder c)
    (h : placeholder n <:+: s ++ c :: t) : placeholder n <:+: s ∨ placeholder n <:+: t := by
  have absent : c ∉ placeholder n := fun mem => other (inPlaceholder_of_mem mem)
  have front (s : List Char) (first : placeholder n <+: s ++ c :: t) : placeholder n <+: s := by
    have whole : s ++ [c] <+: s ++ c :: t := ⟨t, by simp⟩
    rcases List.prefix_or_prefix_of_prefix first whole with short | long
    · rcases List.prefix_concat_iff.1 short with same | short
      · exact absurd (same ▸ List.mem_append_right s List.mem_cons_self) absent
      · exact short
    · exact absurd (long.subset (List.mem_append_right s List.mem_cons_self)) absent
  induction s with
  | nil =>
    rcases List.infix_cons_iff.1 h with first | later
    · exact .inl (front [] first).isInfix
    · exact .inr later
  | cons d s ih =>
    rcases List.infix_cons_iff.1 h with first | later
    · exact .inl (front (d :: s) first).isInfix
    · exact (ih later).imp_left fun here => List.infix_cons here

/-- A placeholder on one side of a sign none of whose characters it has. -/
theorem placeholder_around (some : sign ≠ []) (other : ∀ c ∈ sign, ¬InPlaceholder c)
    (h : placeholder n <:+: s ++ (sign ++ t)) : placeholder n <:+: s ∨ placeholder n <:+: t := by
  induction sign generalizing s with
  | nil => exact absurd rfl some
  | cons c sign ih =>
    refine (placeholder_beside (other c List.mem_cons_self) h).imp_right fun rest => ?_
    cases sign with
    | nil => exact rest
    | cons d sign =>
      have later := ih (s := []) (List.cons_ne_nil d sign)
        (fun e mem => other e (List.mem_cons_of_mem _ mem)) rest
      exact later.resolve_left not_placeholder_nil

/-- A placeholder in one of the parts between separators. -/
theorem placeholder_joinWith {parts : List (List Char)} (some : sign ≠ [])
    (other : ∀ c ∈ sign, ¬InPlaceholder c) (h : placeholder n <:+: joinWith sign parts) :
    ∃ part ∈ parts, placeholder n <:+: part := by
  induction parts with
  | nil => exact absurd h not_placeholder_nil
  | cons part parts ih =>
    cases parts with
    | nil => exact ⟨part, List.mem_cons_self, h⟩
    | cons next parts =>
      rw [joinWith_cons _ _ (List.cons_ne_nil _ _), List.append_assoc] at h
      rcases placeholder_around some other h with here | later
      · exact ⟨part, List.mem_cons_self, here⟩
      · obtain ⟨p, mem, inside⟩ := ih later
        exact ⟨p, List.mem_cons_of_mem _ mem, inside⟩

/-- A placeholder has no blanks to lose. -/
theorem placeholder_sheds (lost : Sheds s t) (h : placeholder n <:+: s) : placeholder n <:+: t :=
  lost.holds_word (List.cons_ne_nil _ _) (fun c mem => (placeholder_neutral n c mem).2) h

theorem placeholder_trim (h : placeholder n <:+: s) : placeholder n <:+: Text.trim s :=
  placeholder_sheds (sheds_trim s) h

theorem placeholder_items (h : placeholder n <:+: s) :
    ∃ item ∈ argumentsOf s, placeholder n <:+: item :=
  placeholder_joinWith (List.cons_ne_nil _ _) (by decide) (placeholder_sheds (sheds_argumentsOf s) h)

/-- A placeholder in a text between quotes. -/
theorem placeholder_literal (quote : (s.head?.map isQuote).getD false = true)
    (closed : ((s.drop 1).getLast?.map isQuote).getD false = true) (h : placeholder n <:+: s) :
    placeholder n <:+: (s.drop 1).dropLast := by
  have other (c : Char) (quote : isQuote c = true) : ¬InPlaceholder c := by
    rintro (rfl | rfl | digit)
    · exact absurd quote (by decide)
    · exact absurd quote (by decide)
    · exact absurd quote (by simp [(inWord_of_isDigit digit).1.1])
  cases s with
  | nil => exact absurd h not_placeholder_nil
  | cons c s =>
    have quote : isQuote c = true := quote
    have inner : placeholder n <:+: s :=
      (placeholder_beside (s := []) (other c quote) h).resolve_left not_placeholder_nil
    rw [List.drop_one, List.tail_cons] at closed ⊢
    rcases List.eq_nil_or_concat s with rfl | ⟨front, d, rfl⟩
    · exact absurd inner not_placeholder_nil
    · rw [List.concat_eq_append] at closed inner ⊢
      rw [List.getLast?_concat] at closed
      rw [List.dropLast_concat]
      have quote' : isQuote d = true := closed
      exact (placeholder_beside (other d quote') inner).resolve_right not_placeholder_nil

/-- A placeholder in a text is in the pieces of the text. -/
theorem placeholder_pieces (complete : (piecesOf s).2 = .complete) (h : placeholder n <:+: s) :
    placeholder n <:+: (piecesOf s).1.flatMap Piece.text := by
  obtain ⟨rest, sheds, whole⟩ := sheds_piecesOf s
  have inside := placeholder_sheds sheds h
  rwa [whole complete, List.append_nil] at inside

/-- The results of a step for each element of a list are related to the elements. -/
theorem forall₂_of_mapM {α β : Type} {R : β → α → Prop} {f : β → Compile α} {l : List β}
    (each : ∀ b d a d', StateT.run (f b) d = .ok (a, d') → R b a) {d d' : Draft} {as : List α}
    (run : StateT.run (l.mapM f) d = .ok (as, d')) : List.Forall₂ R l as := by
  induction l generalizing d as with
  | nil =>
    cases run
    exact .nil
  | cons b l ih =>
    rw [List.mapM_cons] at run
    obtain ⟨a, d₁, first, run⟩ := bind_eq_ok.1 run
    obtain ⟨rest, d₂, others, done⟩ := bind_eq_ok.1 run
    cases done
    exact .cons (each b d a d₁ first) (ih others)

theorem stands_of_part {tags : Option TagStore} {fuel : Nat} (piece : Piece) (d : Draft)
    (part : List Char) (d' : Draft)
    (run : StateT.run (Compile.part tags fuel piece) d = .ok (part, d')) : Stands piece part := by
  cases piece with
  | plain c =>
    cases run
    exact .plain c
  | arguments inner =>
    cases run
    exact .arguments inner _
  | group inner =>
    obtain ⟨e, d₁, -, filled⟩ := bind_eq_ok.1 run
    cases filled
    exact .group inner _

/-- What stands for pieces begins with what the pieces begin with, up to a parenthesis. -/
theorem prefix_flatten {pieces : List Piece} {parts : List (List Char)}
    (stands : List.Forall₂ Stands pieces parts) {front : List Char} (paren : '(' ∉ front)
    (h : front <+: pieces.flatMap Piece.text) : front <+: parts.flatten := by
  induction stands generalizing front with
  | nil => exact h
  | @cons piece part pieces parts here _ ih =>
    cases front with
    | nil => exact List.nil_prefix
    | cons c front =>
      have begins (inner rest : List Char) (form : c :: front <+: '(' :: inner ++ [')'] ++ rest) :
          False := by
        obtain ⟨_, form⟩ := form
        exact paren ((List.cons.inj form).1 ▸ List.mem_cons_self)
      rw [List.flatMap_cons] at h
      cases here with
      | plain d =>
        obtain ⟨same, later⟩ := List.cons_prefix_cons.1 h
        rw [List.flatten_cons, same]
        exact List.cons_prefix_cons.2
          ⟨rfl, ih (fun mem => paren (List.mem_cons_of_mem _ mem)) later⟩
      | arguments inner => exact (begins inner _ h).elim
      | group inner => exact (begins inner _ h).elim

/-- A placeholder in the pieces of a text is left in the flat text, or within parentheses. -/
theorem placeholder_flatten {pieces : List Piece} {parts : List (List Char)}
    (stands : List.Forall₂ Stands pieces parts)
    (h : placeholder n <:+: pieces.flatMap Piece.text) : placeholder n <:+: parts.flatten ∨
      ∃ piece ∈ pieces, ∃ inner, piece.inside? = some inner ∧ placeholder n <:+: inner := by
  have paren : '(' ∉ placeholder n := fun mem => absurd (inPlaceholder_of_mem mem) (by decide)
  induction stands with
  | nil => exact absurd h not_placeholder_nil
  | @cons piece part pieces parts here rest ih =>
    rw [List.flatten_cons]
    -- Behind the piece, it is as the induction says.
    have behind (later : placeholder n <:+: pieces.flatMap Piece.text) :=
      (ih later).imp (fun flat => flat.trans (List.suffix_append part parts.flatten).isInfix)
        fun ⟨p, mem, inside⟩ => (⟨p, List.mem_cons_of_mem piece mem, inside⟩ :
          ∃ p ∈ piece :: pieces, ∃ inner, p.inside? = some inner ∧ placeholder n <:+: inner)
    have enclosed {inner : List Char} (inside : piece.inside? = some inner)
        (h : placeholder n <:+: '(' :: inner ++ [')'] ++ pieces.flatMap Piece.text) :
        placeholder n <:+: part ++ parts.flatten ∨ ∃ p ∈ piece :: pieces, ∃ inner,
          p.inside? = some inner ∧ placeholder n <:+: inner := by
      have opened := (placeholder_beside (s := []) (t := inner ++ ')' :: pieces.flatMap Piece.text)
        (c := '(') (by decide) (by simpa using h)).resolve_left not_placeholder_nil
      rcases placeholder_beside (by decide) opened with within | later
      · exact .inr ⟨piece, List.mem_cons_self, inner, inside, within⟩
      · exact behind later
    rw [List.flatMap_cons] at h
    cases here with
    | plain c =>
      rcases List.infix_cons_iff.1 h with first | later
      · exact .inl (prefix_flatten (.cons (.plain c) rest) paren first).isInfix
      · exact behind later
    | arguments inner => exact enclosed rfl h
    | group inner => exact enclosed rfl h

/-- What has a number and a placeholder in it is that placeholder. -/
theorem eq_of_placeholder? (number : placeholder? s = some m) (h : placeholder n <:+: s) :
    m = n := by
  obtain ⟨front, back, form⟩ := h
  cases front with
  | nil =>
    rw [List.nil_append] at form
    rw [← form] at number
    exact (placeholder?_append number).2
  | cons c front =>
    -- There would be a brace among the digits.
    exfalso
    have brace : '{' ∈ front ++ placeholder n ++ back :=
      List.mem_append_left _ (List.mem_append_right _ List.mem_cons_self)
    rw [← form, List.cons_append, List.cons_append] at number
    generalize front ++ placeholder n ++ back = rest at brace number
    simp only [placeholder?] at number
    split at number
    · next same =>
      obtain ⟨rfl, rfl⟩ := List.cons.inj same
      split at number
      · next last =>
        obtain ⟨digits, rfl⟩ := List.getLast?_eq_some_iff.1 last
        rw [List.dropLast_concat] at number
        have brace : '{' ∈ digits := by simpa using brace
        split at number
        · have word := (inWord_of_read? number).2 '{' (by simpa using brace)
          exact word.2.2 (by decide)
        · exact ((inWord_of_read? number).2 '{' brace).2.2 (by decide)
      · cases number
    · cases number

end Compile

end TagRules
