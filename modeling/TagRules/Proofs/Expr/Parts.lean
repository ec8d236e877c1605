import TagRules.Proofs.Expr.Outside

/-!
# Texts are cut everywhere

A text is cut at each separator that stands outside of literals (`parted_splitAt`): the parts and the
separators between them are the text, and in no part does the separator begin outside of literals, so that a
part is not cut again. A list of arguments is cut at each comma outside of literals and of parentheses
(`itemized_argumentsOf`), and only blanks outside of literals are lost.
-/

namespace TagRules

section Parts

variable {separator s : List Char} {q : Quote} {c : Char}

/-- A separator begins nowhere outside of literals. -/
def Quote.Uncut (q : Quote) (separator s : List Char) : Prop :=
  ∀ front c back, s = front ++ c :: back → ((q.after front).next c).inside = false →
    ¬separator <+: c :: back

theorem Quote.uncut_nil (q : Quote) (separator : List Char) : q.Uncut separator [] := by
  intro front c back form
  exact absurd form.symm (by simp)

theorem Quote.uncut_cons : q.Uncut separator (c :: s) ↔
    ((q.next c).inside = false → ¬separator <+: c :: s) ∧ (q.next c).Uncut separator s := by
  constructor
  · intro uncut
    refine ⟨uncut [] c s rfl, ?_⟩
    intro front d back form
    exact uncut (c :: front) d back (congrArg (c :: ·) form)
  · rintro ⟨here, later⟩ front d back form
    cases front with
    | nil =>
      obtain ⟨rfl, rfl⟩ := List.cons.inj form
      exact here
    | cons e front =>
      obtain ⟨rfl, rest⟩ := List.cons.inj form
      exact later front d back rest

/-- A separator begins nowhere if its first character stands nowhere outside of literals. -/
theorem Quote.Outside.uncut (plain : q.Outside (· ≠ c) s) : q.Uncut (c :: separator) s := by
  intro front d back form out begins
  rw [form, outside_append] at plain
  exact plain.2.1 out (List.cons_prefix_cons.1 begins).1.symm

/-- A text in which the separator begins nowhere outside of literals is one part. -/
theorem splitFrom_of_uncut (uncut : q.Uncut separator s) : splitFrom separator q 0 s = [s] := by
  induction s generalizing q with
  | nil => rfl
  | cons c s ih =>
    obtain ⟨here, later⟩ := Quote.uncut_cons.1 uncut
    have kept : ¬(!(q.next c).inside && separator.isPrefixOf (c :: s)) = true := by
      simpa using here
    rw [splitFrom, if_neg kept, ih later]
    rfl

/-- In no part of a text does the separator begin outside of literals. -/
theorem Splits.uncut {parts : List (List Char)} (h : Splits separator q s parts)
    (sign : Separating separator) : ∃ first rest, parts = first :: rest ∧ first <+: s ∧
      q.Uncut separator first ∧ ∀ part ∈ rest, Quote.Uncut {} separator part := by
  induction h with
  | @done q =>
    exact ⟨[], [], rfl, List.nil_prefix, q.uncut_nil separator, fun _ mem => absurd mem List.not_mem_nil⟩
  | @sign q s parts outside _ ih =>
    obtain ⟨first, rest, rfl, -, uncut, others⟩ := ih
    -- Behind a separator, the place is the one at the start.
    rw [Quote.after_sign outside sign.some sign.plain] at uncut
    refine ⟨[], first :: rest, rfl, List.nil_prefix, q.uncut_nil separator, ?_⟩
    exact List.forall_mem_cons.2 ⟨uncut, others⟩
  | @kept q c s parts other _ ih =>
    obtain ⟨first, rest, rfl, begins, uncut, others⟩ := ih
    have longer : c :: first <+: c :: s := List.cons_prefix_cons.2 ⟨rfl, begins⟩
    refine ⟨c :: first, rest, rfl, longer, Quote.uncut_cons.2 ⟨?_, uncut⟩, others⟩
    intro outside here
    exact other outside (here.trans longer)

/-- A text is cut at every separator outside of literals, and nowhere else. -/
structure Parted (separator text : List Char) (parts : List (List Char)) : Prop where
  /-- With the separator between them, the parts are the text. -/
  joined : joinWith separator parts = text
  /-- A part is not cut again. -/
  alone : ∀ part ∈ parts, splitAt separator part = [part]
  /-- In no part does the separator begin outside of literals. -/
  uncut : ∀ part ∈ parts, Quote.Uncut {} separator part
  /-- The separators between the parts stand outside of literals. -/
  outside : Cuts separator {} text parts

theorem parted_splitAt (sign : Separating separator) (text : List Char) :
    Parted separator text (splitAt separator text) := by
  have splits := splits_splitAt sign text
  have uncut : ∀ part ∈ splitAt separator text, Quote.Uncut {} separator part := by
    obtain ⟨first, rest, form, -, uncut, others⟩ := splits.uncut sign
    rw [form]
    exact List.forall_mem_cons.2 ⟨uncut, others⟩
  have alone : ∀ part ∈ splitAt separator text, splitAt separator part = [part] := by
    intro part mem
    exact splitFrom_of_uncut (uncut part mem)
  exact ⟨splits.cuts.joinWith_eq, alone, uncut, splits.cuts⟩

end Parts

/-- The depth in parentheses after a text. -/
def Quote.depth (q : Quote) (depth : Nat) : List Char → Nat
  | [] => depth
  | c :: rest => (q.next c).depth (q.opened depth c) rest

/-- A text ends outside of literals and of parentheses. -/
def Quote.AtTop (q : Quote) (depth : Nat) (s : List Char) : Prop :=
  (q.after s).inside = false ∧ q.depth depth s = 0

instance (q : Quote) (depth : Nat) (s : List Char) : Decidable (q.AtTop depth s) :=
  inferInstanceAs (Decidable (_ ∧ _))

/-- The number of commas outside of literals and of parentheses. -/
def Quote.commas (q : Quote) (depth : Nat) (s : List Char) : Nat :=
  (List.range s.length).countP fun i => s[i]? = some ',' ∧ q.AtTop depth (s.take i)

theorem Quote.commas_cons (q : Quote) (depth : Nat) (c : Char) (s : List Char) :
    q.commas depth (c :: s) = (q.next c).commas (q.opened depth c) s +
      if (q.next c).inside = false ∧ c = ',' ∧ depth = 0 then 1 else 0 := by
  have first : (c :: s)[0]? = some ',' ∧ q.AtTop depth ((c :: s).take 0) ↔
      (q.next c).inside = false ∧ c = ',' ∧ depth = 0 := by
    constructor
    · rintro ⟨comma, outside, top⟩
      cases Option.some.inj comma
      exact ⟨(next_of_not_isQuote rfl).trans outside, rfl, top⟩
    · rintro ⟨outside, rfl, top⟩
      exact ⟨rfl, (next_of_not_isQuote rfl).symm.trans outside, top⟩
  rw [commas, List.length_cons, List.range_succ_eq_map, List.countP_cons, List.countP_map]
  simp only [decide_eq_true_eq, first]
  rfl

section Items

variable {q : Quote} {depth : Nat} {front back : List Char}

theorem length_consFirst (c : Char) {parts : List (List Char)} (some : parts ≠ []) :
    (consFirst c parts).length = parts.length := by
  obtain ⟨part, rest, rfl⟩ := List.exists_cons_of_ne_nil some
  rfl

theorem consFirst_append (c : Char) {parts : List (List Char)} (some : parts ≠ [])
    (others : List (List Char)) : consFirst c (parts ++ others) = consFirst c parts ++ others := by
  obtain ⟨part, rest, rfl⟩ := List.exists_cons_of_ne_nil some
  rfl

/-- A list of arguments has one item more than it has commas outside of literals and of parentheses. -/
theorem length_argumentsFrom (q : Quote) (depth : Nat) (s : List Char) :
    (argumentsFrom q depth s).length = q.commas depth s + 1 := by
  induction s generalizing q depth with
  | nil => rfl
  | cons c s ih =>
    rw [argumentsFrom_cons, Quote.commas_cons]
    split
    · rw [List.length_cons, ih]
    · split
      · exact ih _ _
      · rw [length_consFirst c (argumentsFrom_ne_nil _ _ _)]
        exact ih _ _

/-- On each side of a comma outside of literals and of parentheses are the items of that side. -/
theorem argumentsFrom_comma (top : q.AtTop depth front) :
    argumentsFrom q depth (front ++ ',' :: back) =
      argumentsFrom q depth front ++ argumentsOf back := by
  induction front generalizing q depth with
  | nil =>
    obtain ⟨outside, rfl⟩ := top
    have out : (q.next ',').inside = false := (Quote.next_of_not_isQuote rfl).trans outside
    have start : q.next ',' = {} := Quote.next_eq out (by decide)
    have level : q.opened 0 ',' = 0 := by
      rw [Quote.opened, start]
      rfl
    rw [List.nil_append, argumentsFrom_cons, if_pos ⟨out, rfl, rfl⟩, start, level]
    rfl
  | cons c front ih =>
    have rest : argumentsFrom (q.next c) (q.opened depth c) (front ++ ',' :: back) =
        argumentsFrom (q.next c) (q.opened depth c) front ++ argumentsOf back := ih top
    rw [List.cons_append, argumentsFrom_cons, argumentsFrom_cons, rest]
    split
    · rfl
    · split
      · rfl
      · exact consFirst_append c (argumentsFrom_ne_nil _ _ _) _

/-- A list of arguments is cut at every comma outside of literals and of parentheses, and nowhere else. -/
structure Itemized (raw : List Char) (items : List (List Char)) : Prop where
  /-- With commas between them, the items are the list without its blanks outside of literals. -/
  joined : joinWith [','] items = solid raw
  /-- There is one item more than there are such commas. -/
  count : items.length = Quote.commas {} 0 raw + 1
  /-- On each side of such a comma are the items of that side. -/
  sides : ∀ front back, raw = front ++ ',' :: back → Quote.AtTop {} 0 front →
    items = argumentsOf front ++ argumentsOf back

theorem itemized_argumentsOf (raw : List Char) : Itemized raw (argumentsOf raw) := by
  refine ⟨joinWith_argumentsFrom {} 0 raw, length_argumentsFrom {} 0 raw, ?_⟩
  rintro front back rfl top
  exact argumentsFrom_comma top

end Items

/-- At separators and at commas, texts are cut everywhere outside of literals and of parentheses, and nothing
but the separators and some blanks is lost. -/
theorem cut_everywhere (text raw : List Char) :
    (∀ separator ∈ ["||", "&&", "^"],
      Parted separator.toList text (splitAt separator.toList text)) ∧
    Itemized raw (argumentsOf raw) := by
  refine ⟨fun separator mem => parted_splitAt ?_ text, itemized_argumentsOf raw⟩
  have signs : ∀ separator ∈ ["||", "&&", "^"], separator.toList ≠ [] ∧
      ∀ c ∈ separator.toList, isQuote c = false ∧ c ≠ '\\' := by decide
  exact ⟨(signs separator mem).1, (signs separator mem).2⟩

/-- Separators that overlap, a separator in a literal, quotes after a backslash, and a parenthesis that closes
where none is open. -/
theorem crowded_everywhere :
    let text := "a|||\"b||c\\\"||\"\\”||d||".toList
    let front := "f(1, 2)), \"x, y\" ".toList
    let back := " (,) z,".toList
    let raw := front ++ ',' :: back
    "||" ∈ ["||", "&&", "^"] ∧ Parted "||".toList text (splitAt "||".toList text) ∧
      splitAt "||".toList text = ["a".toList, "|\"b||c\\\"||\"\\”".toList, "d".toList, []] ∧
      splitAt "||".toList "d".toList = ["d".toList] ∧
      Itemized raw (argumentsOf raw) ∧ Quote.commas {} 0 raw = 3 ∧ Quote.AtTop {} 0 front ∧
      argumentsOf raw = argumentsOf front ++ argumentsOf back ∧
      argumentsOf front = ["f(1,2))".toList, "\"x, y\"".toList] := by
  intro text front back raw
  obtain ⟨parted, itemized⟩ := cut_everywhere text raw
  have mem : "||" ∈ ["||", "&&", "^"] := by decide
  have parted := parted "||" mem
  have parts : splitAt "||".toList text =
      ["a".toList, "|\"b||c\\\"||\"\\”".toList, "d".toList, []] := by decide
  have part : "d".toList ∈ splitAt "||".toList text := by
    rw [parts]
    decide
  have top : Quote.AtTop {} 0 front := by decide
  exact ⟨mem, parted, parts, parted.alone _ part, itemized, by decide +kernel, top,
    itemized.sides front back rfl top, by decide⟩

end TagRules
