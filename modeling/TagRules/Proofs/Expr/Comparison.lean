import TagRules.Proofs.Expr.Canonical
import TagRules.Proofs.Expr.Leftmost

/-!
# Comparisons between two amounts

The text of a comparison is cut at its operator. What stands on its sides is joined by a comma and
read as two arguments. The call of a function among them has been cut out once before, so its
arguments are reached through two placeholders.
-/

namespace TagRules

/-- The text of an amount: a number, a keyword for one, or a call that yields one. -/
inductive Amount : List Char → Operand → Prop
  | number {token n} (reads : Compile.number? token = some n) : Amount token (.number n)
  | keyword {token k} (reads : Keyword.ofWord? token = some k) (numeric : k.isTextual = false) :
    Amount token (.keyword k)
  | call {e : Expr} (formed : e.Formed Operand.Canonical) (kind : e.kind = .number) :
    Amount e.chars (.expr e.prepared)

/-- A number may be spelled as in a canonical text. -/
theorem Amount.of_writable {n : Double} (writable : n.Writable) :
    Amount n.format.toList (.number n) :=
  .number (Compile.number?_format writable)

/-- So may a keyword. -/
theorem Amount.of_keyword {k : Keyword} (numeric : k.isTextual = false) :
    Amount k.text.toList (.keyword k) :=
  .keyword (Compile.ofWord?_text k) numeric

/-- An operator is found where it stands, unless an equality sign makes it another one. -/
theorem comparisonAt?_append {operator right : List Char} {f : Builtin}
    (mem : (operator, f) ∈ Builtin.comparisons) (some : right ≠ [])
    (other : ∀ c ∈ right.head?, c ≠ '=') :
    comparisonAt? (operator ++ right) = .some (f, right) := by
  obtain ⟨c, rest, rfl⟩ := List.exists_cons_of_ne_nil some
  have other : c ≠ '=' := other c rfl
  simp only [Builtin.comparisons, List.mem_cons, Prod.mk.injEq, List.not_mem_nil, or_false] at mem
  rcases mem with ⟨rfl, rfl⟩ | ⟨rfl, rfl⟩ | ⟨rfl, rfl⟩ | ⟨rfl, rfl⟩ | ⟨rfl, rfl⟩ | ⟨rfl, rfl⟩ <;>
    simp [comparisonAt?, Builtin.comparisons, afterFront?, other.symm]

/-- A comparison is cut at its operator if none begins in what stands before it. -/
theorem comparison?_append {left right operator : List Char} {f : Builtin}
    (mem : (operator, f) ∈ Builtin.comparisons) (some : left ≠ [])
    (plain : Quote.Outside (· ∉ ['=', '!', '<', '>']) {} left)
    (ends : (Quote.after {} left).inside = false) (some' : right ≠ [])
    (other : ∀ c ∈ right.head?, c ≠ '=') :
    comparison? (left ++ (operator ++ right)) = .some (left, f, right) := by
  have walk (left before : List Char) (some : before ≠ [] ∨ left ≠ []) (q : Quote)
      (plain : q.Outside (· ∉ ['=', '!', '<', '>']) left) (ends : (q.after left).inside = false) :
      comparisonFrom q before (left ++ (operator ++ right)) =
        .some (before.reverse ++ left, f, right) := by
    induction left generalizing q before with
    | nil =>
      obtain ⟨c, rest, form, quote⟩ : ∃ c rest, operator = c :: rest ∧ isQuote c = false := by
        have heads : ∀ p ∈ Builtin.comparisons, ∃ c rest, p.1 = c :: rest ∧ isQuote c = false := by
          simp [Builtin.comparisons, isQuote]
        exact heads _ mem
      have here := comparisonAt?_append mem some' other
      have next := (Quote.next_of_not_isQuote (q := q) quote).trans ends
      have started : before.isEmpty = false := by simpa using some
      rw [List.nil_append, List.append_nil]
      rw [form, List.cons_append] at here ⊢
      rw [comparisonFrom]
      simp only [next, started, here]
      rfl
    | cons c left ih =>
      have rest := ih (c :: before) (.inl (List.cons_ne_nil _ _)) _ plain.2 ends
      rw [List.cons_append, comparisonFrom]
      cases inside : (q.next c).inside with
      | true => simp [rest]
      | false => simp [comparisonAt?_of_head (plain.1 inside), rest]
  exact walk left [] (.inr some) {} plain ends

namespace Compile

/-- A flat text that is read as an amount wherever the slots are kept. -/
structure Measures (length : Nat) (a : Operand) (flat : List Char) (slots : List Slot) : Prop where
  some : flat ≠ []
  plain : ∀ c ∈ flat, Neutral c ∧ Text.isBlank c = false ∧ c ≠ '!'
  closed : Closed flat
  reads : ∀ fuel d, 4 * length + 4 ≤ fuel → slots <+: d.slots →
    ∃ d', Gives (argument none fuel flat) a d d'

theorem Measures.mono {length : Nat} {a : Operand} {flat : List Char} {slots slots' : List Slot}
    (h : Measures length a flat slots) (front : slots <+: slots') :
    Measures length a flat slots' where
  some := h.some
  plain := h.plain
  closed := h.closed
  reads fuel d enough kept := h.reads fuel d enough (front.trans kept)

/-- A word is flat. -/
theorem Token.flattened {token : List Char} {a : Operand} (h : Token token a)
    (plain : ∀ c ∈ token, InWord c) : Flattened none token (Measures (Text.ink token) a) := by
  refine ⟨token.map .plain, _, piecesFrom_ordinary (fun c mem => (plain c mem).1) false,
    fun fuel d _ => ⟨token, d, .plain token d, ?_⟩⟩
  exact {
    some := h.bare.nonempty
    plain c mem := by
      refine ⟨(plain c mem).2.1, (plain c mem).1.2.2.2.2, ?_⟩
      rintro rfl
      exact (plain '!' mem).2.2 (by decide)
    closed := h.closed
    reads fuel d enough _ := by
      obtain ⟨fuel, rfl⟩ : ∃ k, fuel = k + 1 := ⟨fuel - 1, by omega⟩
      exact h.gives d }

/-- A function that yields a number has one argument. -/
theorem exists_singleton {f : Builtin} {args : List Operand} (number : f.result = .number)
    (fit : fits f.signature args = true) : ∃ a, args = [a] := by
  have all : ∀ f ∈ Builtin.all, f.result = .number →
      f.signature ∉ [.nullary, .numbers, .texts, .pattern] := by
    decide
  have other := all f f.mem_all number
  unfold fits at fit
  split at fit <;> simp_all

/-- The placeholder of a list of one argument is read as the argument. -/
theorem argument_reference {fuel n : Nat} {raw : List Char} {a : Operand} {d d' : Draft}
    (at' : d.slots[n]? = some (.arguments raw)) (given : Gives (arguments none fuel raw) [a] d d') :
    Gives (argument none (fuel + 1) (placeholder n)) a d d' := by
  rw [argument_placeholder]
  exact (Gives.slot? at').bind (given.bind (.pure _ _))

/-- The flat text of a call of one argument is an amount. -/
theorem measures_call {f : Builtin} {name : String} {a : Operand} {p : Option Pattern}
    (named : Builtin.ofName? name = some f) (fit : fits f.signature [a] = true)
    (numeric : notNumeric? f.signature [a] = none) (spelled : f.Spelled [a])
    (legible : ∀ b ∈ [a], b.Legible)
    (nested : ∀ e, .expr e ∈ [a] → e.Formed Operand.Legible) {n : Nat} {slots : List Slot}
    (at' : slots[n]? = some (Expr.call f name [a] p).slot) :
    Measures (Text.ink (Expr.call f name [a] p).chars) (.expr (Expr.call f name [a] p).prepared)
      ((Expr.call f name [a] p).flat n) slots := by
  have formed : (Expr.call f name [a] p).Formed Operand.Legible :=
    .call named fit numeric spelled legible nested
  obtain ⟨some, neutral⟩ := formed.flat_neutral n
  obtain ⟨nonempty, letters⟩ := Builtin.letters named
  have first := Text.ink_pos formed.paren_mem rfl
  have inner := (closed_placeholder n).inner
  refine ⟨some, fun c mem => ⟨(neutral c mem).1, (neutral c mem).2, ?_⟩, ?_, ?_⟩
  · rintro rfl
    simp only [Expr.flat, List.mem_append, List.mem_cons, List.not_mem_nil, or_false] at mem
    rcases mem with (mem | same | mem) | same
    · exact (letters '!' mem).2.2.1 (by decide)
    · exact absurd same (by decide)
    · exact (placeholder_ordinary n '!' mem).2.2 (by decide)
    · exact absurd same (by decide)
  · have noComma : ',' ∉ name.toList := fun mem => (letters ',' mem).2.2.1 (by decide)
    rw [Expr.flat, List.append_assoc]
    exact .ordinary_append (fun c mem => (letters c mem).1) noComma (closed_paren inner)
  · intro fuel d enough kept
    obtain ⟨fuel, rfl⟩ : ∃ k, fuel = k + 5 := ⟨fuel - 5, by omega⟩
    have refer (d' : Draft) (front : d.slots <+: d'.slots) :
        ∃ d'', Gives (argument none (fuel + 1) (placeholder n)) a.prepared d' d'' := by
      obtain ⟨d'', given⟩ := Expr.arguments_inverted (p := p) named legible nested
        (fun e mem => (nested e mem).inverts (Expr.testable_none _)) fuel (by omega) d'
      exact ⟨d'', argument_reference (getElem?_mono (kept.trans front) at') given⟩
    -- Compiled on its own, the text takes a second slot, which holds the placeholder of the first.
    obtain ⟨m, d₁, reference, second⟩ := @Flattens.arguments none (fuel + 2) (placeholder n) d
    have flattens := (Flattens.plain name.toList d).append reference
    obtain ⟨d₂, given⟩ := arguments_gives (fuel + 1) (d := d₁)
      [(placeholder n, a.prepared)]
      (List.forall_mem_singleton.2 (closed_placeholder n))
      (List.forall_mem_singleton.2 (List.cons_ne_nil _ _))
      (List.forall_mem_singleton.2 fun d' front => refer d' (flattens.slots.trans front))
    obtain ⟨d', called⟩ := call_gives_prepared named fit numeric spelled (fun _ => testable_none _) d₂
    have read := basic_call nonempty letters second given called
    have cut := piecesFrom_call nonempty letters inner []
    have trimmed := (Tight.of_solid fun c mem => (neutral c mem).2).trim_eq_self
    rw [Expr.flat, List.append_assoc] at trimmed
    rw [List.append_assoc] at read
    rw [Expr.prepared, operandsPrepared_eq, Expr.flat, List.append_assoc]
    refine ⟨d', argument_start (by simp) (fun c first => ?_)
      (start_gives trimmed ⟨'(', by simp, by decide⟩ cut flattens read)⟩
    obtain ⟨c', rest, form⟩ := List.exists_cons_of_ne_nil nonempty
    rw [form] at first letters
    cases first
    have letter := letters c List.mem_cons_self
    refine ⟨letter.1.1, ?_⟩
    rintro rfl
    exact letter.2.2.1 (by decide)

/-- The flat text of an expression that yields a number is an amount. -/
theorem measures_flat {e : Expr} (formed : e.Formed Operand.Legible) (kind : e.kind = .number)
    {n : Nat} {slots : List Slot} (at' : slots[n]? = some e.slot) :
    Measures (Text.ink e.chars) (.expr e.prepared) (e.flat n) slots := by
  cases formed with
  | notLiteral => cases kind
  | not => cases kind
  | combination mem =>
    rw [Expr.kind_combine mem] at kind
    cases kind
  | call named fit numeric spelled legible nested =>
    obtain ⟨a, rfl⟩ := exists_singleton kind fit
    exact measures_call named fit numeric spelled legible nested at'

end Compile

/-- The text of an amount is flattened to a text that is read as the amount. -/
theorem Amount.flattened {text : List Char} {a : Operand} (h : Amount text a) :
    Compile.Flattened none text (Compile.Measures (Text.ink text) a) := by
  cases h with
  | number reads =>
    exact (Compile.token_of_number? reads).flattened (Compile.inWord_of_number? reads).2
  | keyword reads =>
    exact (Compile.token_of_ofWord? reads).flattened (Compile.inWord_of_ofWord? reads).2.1
  | call formed kind =>
    have formed := formed.imp fun _ => Operand.Canonical.legible
    refine ((formed.inverts (Expr.testable_none _)).flattened formed).imp ?_
    rintro flat slots ⟨n, rfl, at'⟩
    exact Compile.measures_flat formed kind at'

theorem Amount.closed {text : List Char} {a : Operand} (h : Amount text a) : Closed text := by
  cases h with
  | number reads => exact (Compile.token_of_number? reads).closed
  | keyword reads => exact (Compile.token_of_ofWord? reads).closed
  | call formed => exact (formed.imp fun _ => Operand.Canonical.legible).closed

theorem Amount.ne_nil {text : List Char} {a : Operand} (h : Amount text a) : text ≠ [] := by
  cases h with
  | number reads => exact (Compile.inWord_of_number? reads).1
  | keyword reads => exact (Compile.inWord_of_ofWord? reads).1
  | call formed => exact List.ne_nil_of_mem formed.paren_mem

theorem Amount.numeric {text : List Char} {a : Operand} (h : Amount text a) :
    Compile.notNumeric?.wrong a = none := by
  cases h with
  | number => rfl
  | keyword => rfl
  | call formed kind =>
    rw [Compile.notNumeric?.wrong, if_pos ((Expr.kind_prepared _).trans kind)]

namespace Compile

/-- The call of a comparison. -/
theorem call_comparison {operator : List Char} {f : Builtin} {a b : Operand}
    (mem : (operator, f) ∈ Builtin.comparisons) (first : notNumeric?.wrong a = none)
    (second : notNumeric?.wrong b = none) (d : Draft) :
    ∃ d', Gives (call none f.name.toList [a, b]) (.call f f.name [a, b] none) d d' := by
  have all : ∀ p ∈ Builtin.comparisons, Builtin.ofName? p.2.name = some p.2 ∧
      p.2.signature = .numbers ∧ p.2 ∉ [.hasTag, .hasNet, .matching, .getConfig] := by
    decide +kernel
  obtain ⟨named, signature, other⟩ := all _ mem
  refine ⟨noteFunction d f, call_eq_ok.2 ⟨f, [a, b], none, d, ?_⟩, ?_⟩
  · rw [String.ofList_toList, signature]
    refine ⟨named, rfl, ?_, .plain other, rfl, rfl⟩
    simp [notNumeric?, first, second]
  · unfold noteFunction
    split <;> exact List.prefix_refl _

/-- Two amounts with an operator between them hold no sign of a combination. -/
theorem unsigned {operator left right : List Char} {f : Builtin} {a b : Operand}
    {length length' : Nat} {slots : List Slot} (mem : (operator, f) ∈ Builtin.comparisons)
    (first : Measures length a left slots) (second : Measures length' b right slots) :
    ∀ c ∈ left ++ (operator ++ right),
      isQuote c = false ∧ Text.isBlank c = false ∧ c ∉ signs ['^'] := by
  have all : ∀ p ∈ Builtin.comparisons, ∀ c ∈ p.1,
      isQuote c = false ∧ Text.isBlank c = false ∧ c ∉ signs ['^'] := by
    decide
  have amount {length : Nat} {a : Operand} {flat : List Char} (h : Measures length a flat slots) :
      ∀ c ∈ flat, isQuote c = false ∧ Text.isBlank c = false ∧ c ∉ signs ['^'] := by
    intro c mem
    obtain ⟨quote, sign⟩ := not_mem_signs xor_mem (h.plain c mem).1
    exact ⟨quote, (h.plain c mem).2.1, sign⟩
  exact List.forall_mem_append.2
    ⟨amount first, List.forall_mem_append.2 ⟨all _ mem, amount second⟩⟩

/-- Two amounts with an operator between them are read as the call of its function. -/
theorem basic_comparison {operator left right : List Char} {f : Builtin} {a b : Operand}
    {length length' fuel : Nat} {slots : List Slot} {d : Draft}
    (mem : (operator, f) ∈ Builtin.comparisons) (first : Measures length a left slots)
    (second : Measures length' b right slots) (numeric : notNumeric?.wrong a = none)
    (numeric' : notNumeric?.wrong b = none) (enough : 4 * length + 4 ≤ fuel)
    (enough' : 4 * length' + 4 ≤ fuel) (kept : slots <+: d.slots) :
    ∃ d', Gives (basic none (fuel + 2) (left ++ (operator ++ right))) (.call f f.name [a, b] none)
      d d' := by
  have whole : combination? (left ++ (operator ++ right)) = none := combination?_eq_none
    (Quote.outside_of_forall fun c inside => (unsigned mem first second c inside).2.2)
  obtain ⟨escaped, passes⟩ := first.closed
  have cut := comparison?_append mem first.some (Quote.outside_of_forall fun c inside => ?_)
    (congrArg Quote.inside (Quote.after_of_pass passes)) second.some fun c inside => ?_
  · obtain ⟨d₁, given⟩ := arguments_gives fuel (d := d) [(left, a), (right, b)]
      (List.forall_mem_cons.2 ⟨first.closed, List.forall_mem_singleton.2 second.closed⟩)
      (List.forall_mem_cons.2 ⟨first.some, List.forall_mem_singleton.2 second.some⟩)
      (List.forall_mem_cons.2 ⟨fun d' front => first.reads fuel d' enough (kept.trans front),
        List.forall_mem_singleton.2 fun d' front =>
          second.reads fuel d' enough' (kept.trans front)⟩)
    obtain ⟨d', called⟩ := call_comparison mem numeric numeric' d₁
    refine ⟨d', ?_⟩
    rw [basic.eq_def]
    simp only [whole, cut]
    rw [if_neg (by simp [first.some])]
    have joined : left ++ ',' :: right = joinWith [','] ([(left, a), (right, b)].map (·.1)) := by
      simp [joinWith]
    rw [joined]
    exact given.bind called
  · have plain := first.plain c inside
    intro sign
    simp only [List.mem_cons, List.not_mem_nil, or_false] at sign
    rcases sign with rfl | rfl | rfl | rfl
    · exact plain.1.2 (by decide)
    · exact plain.2.2 rfl
    · exact plain.1.2 (by decide)
    · exact plain.1.2 (by decide)
  · rintro rfl
    exact (second.plain '=' (List.mem_of_head? inside)).1.2 (by decide)

end Compile

end TagRules
