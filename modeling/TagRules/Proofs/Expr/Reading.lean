import TagRules.Proofs.Expr.Acts
import TagRules.Proofs.Expr.Term

/-!
# Reading terms

What compiling does with the text of a term is what the term stands for (`argument_acts`). As an
operand of a comparison it has been flattened before: a call is read with its placeholder in the
place of the arguments, the placeholder goes to a second slot and has to stand for one value
(`flat_acts`). Blanks may stand anywhere in the texts outside of literals.
-/

namespace TagRules

theorem Term.Held.mono {t : Term} {slots slots' : List Slot} {n : Nat} (held : t.Held slots n)
    (front : slots <+: slots') : t.Held slots' n := by
  cases t with
  | call name args =>
    obtain ⟨inner, here, at'⟩ := held
    exact ⟨inner, here, Compile.getElem?_mono front at'⟩
  | _ => trivial

namespace Compile

variable {tags : Option TagStore} {fuel : Nat} {slots : List Slot}

/-- A text that can be an item of a list of arguments, whatever stands around it. -/
structure Item (s : List Char) : Prop where
  some : s ≠ []
  closed : Closed s
  smooth : Quote.Smooth {} s

theorem Item.of_proper {t : Term} (h : t.Proper) : Item t.text :=
  ⟨h.text_ne_nil, h.closed, h.smooth⟩

theorem Item.flat {t : Term} (h : t.Proper) (n : Nat) : Item (t.flat n) :=
  ⟨h.flat_ne_nil n, h.closed_flat n, h.smooth_flat n⟩

theorem Item.placeholder (n : Nat) : Item (placeholder n) :=
  ⟨List.cons_ne_nil _ _, closed_placeholder n, Quote.smooth_of_not_isQuote fun c mem =>
    (placeholder_ordinary n c mem).1.1⟩

/-- Ordinary characters between two items. -/
theorem Item.around {s t sign : List Char} (first : Item s) (some : sign ≠ [])
    (ordinary : ∀ c ∈ sign, Ordinary c) (comma : ',' ∉ sign) (second : Item t) :
    Item (s ++ (sign ++ t)) := by
  obtain ⟨escaped, passes⟩ := first.closed
  obtain ⟨escaped', passes'⟩ := second.closed
  refine ⟨List.append_ne_nil_of_left_ne_nil first.some _, ⟨escaped', ?_⟩, ?_⟩
  · refine Quote.pass_append.2 ⟨_, passes, ?_⟩
    obtain ⟨c, rest, rfl⟩ := List.exists_cons_of_ne_nil some
    simp only [List.mem_cons, not_or] at comma
    rw [List.cons_append, Quote.pass_ordinary_cons (ordinary c List.mem_cons_self)
      fun same => absurd same.symm comma.1]
    rw [Quote.pass_ordinary (fun d mem => ordinary d (List.mem_cons_of_mem _ mem))
      fun mem => absurd mem comma.2]
    exact passes'
  · refine Quote.smooth_append.2 ⟨first.smooth, Quote.smooth_append.2
      ⟨Quote.smooth_of_not_isQuote fun c mem => (ordinary c mem).1, ?_⟩⟩
    rw [Quote.after_of_pass passes, Quote.after_sign rfl some
      fun c mem => ⟨(ordinary c mem).1, (ordinary c mem).2.2.2.1⟩]
    exact second.smooth

/-- A text is steady if no quote of its solid form is escaped. -/
theorem steady_of_form {s text : List Char} (form : solid text = s) (smooth : Quote.Smooth {} s) :
    Quote.Steady {} {} text := by
  subst form
  exact Quote.steady_of_smooth rfl id smooth

/-- A list of items is read item by item, with or without blanks between them. -/
theorem arguments_eq {items : List (List Char)} (each : ∀ item ∈ items, Item item)
    {raw : List Char} (form : solid raw = joinWith [','] items) :
    arguments tags (fuel + 1) raw = items.mapM (argument tags fuel) := by
  have closed := fun item mem => (each item mem).closed
  have smooth := smooth_joinWith closed fun item mem => (each item mem).smooth
  exact arguments_of_solid tags fuel closed (fun item mem => (each item mem).some) form
    (steady_of_form form smooth)

/-! ### Flattening -/

theorem eq_map_plain {pieces : List Piece} {s : List Char}
    (h : pieces.map Piece.solid = s.map .plain) : pieces = s.map .plain := by
  induction pieces generalizing s with
  | nil =>
    rw [List.map_nil] at h
    rw [← h]
  | cons piece pieces ih =>
    cases s with
    | nil => cases h
    | cons c s =>
      obtain ⟨first, rest⟩ := List.cons.inj h
      cases piece <;> cases first
      rw [List.map_cons, ih rest]

/-- The pieces of a call, with or without blanks among the arguments. -/
theorem eq_pieces_call {pieces : List Piece} {name raw : List Char}
    (h : pieces.map Piece.solid = name.map .plain ++ [.arguments raw]) :
    ∃ inside, solid inside = raw ∧ pieces = name.map .plain ++ [.arguments inside] := by
  obtain ⟨front, back, rfl, first, last⟩ := List.map_eq_append_iff.1 h
  obtain ⟨piece, rfl, last⟩ := List.map_eq_singleton_iff.1 last
  cases piece <;> cases last
  exact ⟨_, rfl, by rw [eq_map_plain first]⟩

/-- The arguments of a call go to a slot. -/
theorem mapM_part_call (name inside : List Char) :
    (name.map Piece.plain ++ [Piece.arguments inside]).mapM (part tags fuel) = (do
      let key ← fill (.arguments inside)
      return name.map ([·]) ++ ['(' :: key ++ [')']]) := by
  rw [List.mapM_append, mapM_part_plain, pure_bind, List.mapM_cons]
  simp only [part, List.mapM_nil, bind_assoc, pure_bind]

theorem flatten_call (name key : List Char) :
    (name.map ([·]) ++ ['(' :: key ++ [')']]).flatten = name ++ '(' :: key ++ [')'] := by
  have front : (name.map ([·])).flatten = name := List.flatMap_singleton' name
  rw [List.flatten_append, front, List.flatten_singleton, List.append_assoc]

/-- A term is flattened, and its arguments go to a slot. -/
theorem flatten_term (tags : Option TagStore) (fuel : Nat) {t : Term} {pieces : List Piece}
    (form : pieces.map Piece.solid = t.pieces) (d : Draft) : ∃ parts more,
      StateT.run (pieces.mapM (part tags fuel)) d =
        .ok (parts, { d with slots := d.slots ++ more }) ∧
      parts.flatten = t.flat d.slots.length ∧ t.Held (d.slots ++ more) d.slots.length := by
  have plain {s : List Char} (form : pieces.map Piece.solid = s.map .plain) : ∃ parts,
      StateT.run (pieces.mapM (part tags fuel)) d = .ok (parts, { d with slots := d.slots ++ [] }) ∧
        parts.flatten = s := by
    refine ⟨s.map ([·]), ?_, List.flatMap_singleton' s⟩
    rw [eq_map_plain form, mapM_part_plain, List.append_nil]
    rfl
  cases t with
  | call name args =>
    obtain ⟨inside, here, rfl⟩ := eq_pieces_call form
    refine ⟨_, [.arguments inside], ?_, flatten_call name.toList _, inside, here, ?_⟩
    · rw [mapM_part_call]
      rfl
    · exact List.getElem?_concat_length
  | word s =>
    obtain ⟨parts, run, flat⟩ := plain form
    exact ⟨parts, [], run, flat, trivial⟩
  | literal opening inner closing =>
    obtain ⟨parts, run, flat⟩ := plain form
    exact ⟨parts, [], run, flat, trivial⟩

/-- A composite text is compiled by way of its pieces, with or without blanks. -/
theorem start_of_solid (tags : Option TagStore) (fuel : Nat) {s text : List Char}
    {pieces : List Piece} (form : solid text = s) (tight : Tight s)
    (steady : Quote.Steady {} {} text) (composite : Composite s)
    (cut : piecesOf s = (pieces, .complete)) :
    ∃ pieces', pieces'.map Piece.solid = pieces ∧
      (∀ piece ∈ pieces', ∀ inner, piece.inside? = some inner → Quote.Steady {} {} inner) ∧
      start tags (fuel + 1) text = (do
        let flat ← flatten tags fuel pieces'
        basic tags fuel flat) := by
  have trimmed : solid (Text.trim text) = s := by rw [solid_trim, form, tight.trim_eq_self]
  have both : piecesOf (solid (Text.trim text)) = solidPieces (piecesOf (Text.trim text)) :=
    (piecesFrom_solid steady.trim).1 false
  rw [trimmed, cut] at both
  obtain ⟨pieces', ending⟩ := Prod.mk.inj both
  refine ⟨_, pieces'.symm, fun piece mem inner inside => ?_,
    start_composite tags fuel ?_ (Prod.ext rfl ending.symm)⟩
  · exact steady.trim.enclosed rfl ((pieced_piecesOf _).enclosed piece mem inner inside)
  obtain ⟨c, mem, sign⟩ := composite
  exact ⟨c, (Quote.solid_sublist _ _).subset (trimmed ▸ mem), sign⟩

/-- A text that is a call without blanks is compiled by way of its arguments. -/
theorem start_call (tags : Option TagStore) (fuel : Nat) {f : Builtin} {name : String}
    (named : Builtin.ofName? name = some f) {raw : List Char} (inner : Inner raw) {text : List Char}
    (form : solid text = name.toList ++ '(' :: raw ++ [')']) (steady : Quote.Steady {} {} text) :
    ∃ inside, solid inside = raw ∧ Quote.Steady {} {} inside ∧ start tags (fuel + 2) text = (do
      let key ← fill (.arguments inside)
      basic tags (fuel + 1) (name.toList ++ '(' :: key ++ [')'])) := by
  obtain ⟨some, letters⟩ := Builtin.letters named
  have cut : piecesOf (name.toList ++ '(' :: raw ++ [')']) =
      (name.toList.map .plain ++ [.arguments raw], .complete) := by
    have cut := piecesFrom_call some letters inner []
    rw [piecesOf, List.append_assoc]
    exact cut
  obtain ⟨pieces, same, within, started⟩ := start_of_solid tags (fuel + 1) form
    (Term.closed_of_named named inner).inner.tight steady ⟨'(', by simp, by decide⟩ cut
  obtain ⟨inside, here, rfl⟩ := eq_pieces_call same
  refine ⟨inside, here, within (.arguments inside) (by simp) inside rfl, started.trans ?_⟩
  rw [flatten_succ, mapM_part_call]
  simp only [bind_assoc, pure_bind, flatten_call]

/-- A call is what its arguments are, and then the call. -/
theorem start_acts (tags : Option TagStore) (fuel : Nat) {f : Builtin} {name : String}
    (named : Builtin.ofName? name = some f) {raw : List Char} (inner : Inner raw)
    (smooth : Quote.Smooth {} raw) {text : List Char}
    (form : solid text = name.toList ++ '(' :: raw ++ [')']) {values : Compile (List Operand)}
    (aside : Local values)
    (acts : ∀ inside, solid inside = raw → Acts slots (arguments tags fuel inside) values) :
    Acts slots (start tags (fuel + 2) text) (values >>= call tags name.toList) := by
  obtain ⟨some, letters⟩ := Builtin.letters named
  obtain ⟨inside, here, -, started⟩ := start_call tags fuel named inner form
    (steady_of_form form (Term.smooth_of_named named smooth))
  rw [started]
  refine .fill (.bind aside fun _ => .call ..) fun d front => ?_
  rw [basic_named tags fuel some letters]
  refine .slot? List.getElem?_concat_length ?_
  exact ((acts inside here).mono (front.trans (List.prefix_append _ _))).bind
    (fun _ => .of_local (.call ..)) fun _ => .call ..

/-! ### Terms -/

/-- A name is neither a quote nor a brace. -/
theorem head_of_named {f : Builtin} {name : String} (named : Builtin.ofName? name = some f)
    (rest : List Char) : ∀ c ∈ (name.toList ++ '(' :: rest ++ [')']).head?,
      isQuote c = false ∧ c ≠ '{' := by
  obtain ⟨some, letters⟩ := Builtin.letters named
  obtain ⟨c, letters', form⟩ := List.exists_cons_of_ne_nil some
  intro d first
  rw [form] at first letters
  cases first
  have letter := letters c List.mem_cons_self
  refine ⟨letter.1.1, ?_⟩
  rintro rfl
  exact letter.2.2.1 (by decide)

theorem argument_literal {opening closing : Char} {inner : List Char}
    (opens : isQuote opening = true) (closes : isQuote closing = true) :
    argument tags (fuel + 1) (opening :: inner ++ [closing]) =
      pure (.text (String.ofList inner)) := by
  rw [argument.eq_def]
  simp only [List.cons_append, List.head?_cons, Option.map_some, Option.getD_some, opens, if_true]
  rw [literal.eq_def]
  simp only [List.drop_succ_cons, List.drop_zero]
  split
  · next none => simp at none
  · next rest some =>
    rw [List.getLast?_concat, List.dropLast_concat]
    simp [closes]

/-- A text that is a call is read as what its arguments are, and then the call. -/
theorem argument_call {f : Builtin} {name : String} (named : Builtin.ofName? name = some f)
    {raw : List Char} (inner : Inner raw) (smooth : Quote.Smooth {} raw)
    {values : Compile (List Operand)} (aside : Local values)
    (acts : ∀ inside, solid inside = raw → Acts slots (arguments tags fuel inside) values) :
    Acts slots (argument tags (fuel + 3) (name.toList ++ '(' :: raw ++ [')'])) (do
      let values ← values
      let e ← call tags name.toList values
      return .expr e) := by
  have form : solid (name.toList ++ '(' :: raw ++ [')']) = name.toList ++ '(' :: raw ++ [')'] :=
    Quote.solid_of_pass (Term.closed_of_named named inner).choose_spec
  have started := start_acts tags fuel named inner smooth form aside acts
  rw [argument_paren tags (fuel + 2) (by simp) (head_of_named named raw), ← bind_assoc]
  exact started.bind (fun _ => .of_local (.pure _)) fun _ => .pure _

theorem items_of_proper {args : List Term} (each : ∀ t ∈ args, t.Proper) :
    ∀ item ∈ termTexts args, Item item := by
  rw [termTexts_eq]
  intro item mem
  obtain ⟨t, here, rfl⟩ := List.mem_map.1 mem
  exact .of_proper (each t here)

theorem inner_of_proper {args : List Term} (each : ∀ t ∈ args, t.Proper) :
    Inner (joinWith [','] (termTexts args)) :=
  inner_joinWith (by decide) fun item mem => (items_of_proper each item mem).closed

theorem smooth_of_proper {args : List Term} (each : ∀ t ∈ args, t.Proper) :
    Quote.Smooth {} (joinWith [','] (termTexts args)) :=
  smooth_joinWith (fun item mem => (items_of_proper each item mem).closed)
    fun item mem => (items_of_proper each item mem).smooth

/-- The texts of terms are read as what the terms stand for. -/
theorem arguments_acts {args : List Term} (each : ∀ t ∈ args, t.Proper) {raw : List Char}
    (form : solid raw = joinWith [','] (termTexts args))
    (acts : ∀ t ∈ args, Acts slots (argument tags fuel t.text) (t.meaning tags)) :
    Acts slots (arguments tags (fuel + 1) raw) (termMeanings tags args) := by
  rw [arguments_eq (items_of_proper each) form, termTexts_eq, termMeanings_eq, List.mapM_map]
  exact .mapM (fun t => t.local_meaning tags) acts

/-- There are fewer parentheses in an argument than in the call. -/
theorem count_text_lt (name : String) {args : List Term} {t : Term} (mem : t ∈ args) :
    t.text.count '(' < (Term.call name args).text.count '(' := by
  have part := infix_joinWith [','] (termTexts_eq args ▸ List.mem_map_of_mem mem)
  have fewer := part.sublist.count_le '('
  rw [Term.text, List.count_append, List.count_append, List.count_cons_self]
  omega

/-- With enough fuel, the text of a term is read as what the term stands for. -/
theorem argument_acts {t : Term} (h : t.Proper) (enough : 4 * t.text.count '(' + 1 ≤ fuel) :
    Acts slots (argument tags fuel t.text) (t.meaning tags) := by
  induction h generalizing fuel with
  | @word s some plain =>
    obtain ⟨fuel, rfl⟩ : ∃ k, fuel = k + 1 := ⟨fuel - 1, by omega⟩
    obtain ⟨c, rest, rfl⟩ := List.exists_cons_of_ne_nil some
    have first := plain c List.mem_cons_self
    have paren : '(' ∉ c :: rest := fun mem => (plain '(' mem).2.2.1 (by decide)
    rw [Term.text, argument_word tags fuel (by simp [first.1]) (fun brace => ?_) paren]
    · exact .of_local (.word _)
    · cases brace
      exact first.2.2.1 (by decide)
  | literal opens closes plain =>
    obtain ⟨fuel, rfl⟩ : ∃ k, fuel = k + 1 := ⟨fuel - 1, by omega⟩
    rw [Term.text, argument_literal opens closes]
    exact .of_local (.pure _)
  | @call name args f named each ih =>
    have some : 1 ≤ (Term.call name args).text.count '(' := by
      rw [Term.text]
      exact List.count_pos_iff.2 (by simp)
    obtain ⟨fuel, rfl⟩ : ∃ k, fuel = k + 4 := ⟨fuel - 4, by omega⟩
    rw [Term.text, Term.meaning]
    refine argument_call named (inner_of_proper each) (smooth_of_proper each)
      (local_termMeanings tags args) fun raw form =>
        arguments_acts each form fun t mem => ih t mem ?_
    have fewer := count_text_lt name mem
    omega

/-- A call of terms is what the terms stand for, and then the call. -/
theorem start_terms (tags : Option TagStore) {name : String} {f : Builtin}
    (named : Builtin.ofName? name = some f) {args : List Term} (each : ∀ t ∈ args, t.Proper)
    {text : List Char} (form : solid text = (Term.call name args).text) (enough : 4 * text.count '(' ≤ fuel) :
    Acts slots (start tags fuel text) (termMeanings tags args >>= call tags name.toList) := by
  have parens : (solid text).count '(' = text.count '(' := Quote.count_solid {} rfl
  have some : 1 ≤ (Term.call name args).text.count '(' := by
    rw [Term.text]
    exact List.count_pos_iff.2 (by simp)
  rw [form] at parens
  obtain ⟨fuel, rfl⟩ : ∃ k, fuel = k + 3 := ⟨fuel - 3, by omega⟩
  refine start_acts tags (fuel + 1) named (inner_of_proper each) (smooth_of_proper each) form
    (local_termMeanings tags args) fun raw form =>
      arguments_acts each form fun t mem => argument_acts (each t mem) ?_
  have fewer := count_text_lt name mem
  omega

/-! ### Behind placeholders -/

/-- The only one of several values, which a placeholder must stand for. -/
def value (n : Nat) : List Operand → Compile Operand
  | [value] => return value
  | _ => reject (.ambiguousReference (String.ofList (placeholder n)))

theorem local_value (n : Nat) (values : List Operand) : Local (value n values) := by
  unfold value
  split
  · exact .pure _
  · exact .reject _

end Compile

/-- What a term stands for if its arguments are behind a placeholder. -/
def Term.referred (tags : Option TagStore) (n : Nat) : Term → Compile Operand
  | .call name args => do
    let values ← termMeanings tags args
    let value ← Compile.value n values
    let e ← Compile.call tags name.toList [value]
    return .expr e
  | t => t.meaning tags

theorem Term.local_referred (tags : Option TagStore) (n : Nat) (t : Term) :
    Compile.Local (t.referred tags n) := by
  cases t with
  | call name args =>
    refine .bind (local_termMeanings tags args) fun values => ?_
    exact .bind (Compile.local_value n values) fun _ => .bind (.call ..) fun _ => .pure _
  | _ => exact Term.local_meaning tags _

/-- A placeholder makes no difference where it stands for one value. -/
theorem Term.referred_of_single {tags : Option TagStore} {t : Term} (single : t.Single) (n : Nat) :
    t.referred tags n = t.meaning tags := by
  cases t with
  | call name args =>
    obtain ⟨t, rfl⟩ := List.length_eq_one_iff.1 single
    simp only [referred, meaning, termMeanings, Compile.value, bind_assoc, pure_bind]
  | _ => rfl

namespace Compile

/-- With enough fuel, the flat text of a term is read as what the term stands for behind a
placeholder. -/
theorem flat_acts {t : Term} (h : t.Proper) {n : Nat} (held : t.Held slots n)
    (enough : 4 * t.text.count '(' + 3 ≤ fuel) :
    Acts slots (argument tags fuel (t.flat n)) (t.referred tags n) := by
  cases h with
  | word some plain => exact argument_acts (.word some plain) (by omega)
  | literal opens closes plain => exact argument_acts (.literal opens closes plain) (by omega)
  | @call name args f named each =>
    obtain ⟨raw, form, at'⟩ := held
    have some : 1 ≤ (Term.call name args).text.count '(' := by
      rw [Term.text]
      exact List.count_pos_iff.2 (by simp)
    obtain ⟨fuel, rfl⟩ : ∃ k, fuel = k + 6 := ⟨fuel - 6, by omega⟩
    have values : Acts slots (arguments tags (fuel + 1) raw) (termMeanings tags args) := by
      refine arguments_acts each form fun t mem => argument_acts (each t mem) ?_
      have fewer := count_text_lt name mem
      omega
    have referred : Acts slots (argument tags (fuel + 2) (placeholder n))
        (do let values ← termMeanings tags args; value n values) := by
      rw [argument_placeholder]
      refine .slot? at' (values.bind (fun values => ?_) fun values => local_value n values)
      exact .of_local (local_value n values)
    have item := Item.placeholder n
    -- Compiled on its own, the flat text takes another slot, which holds the placeholder.
    have single (inside : List Char) (form : solid inside = placeholder n) :
        Acts slots (arguments tags (fuel + 3) inside) (do
          let values ← termMeanings tags args
          let value ← value n values
          return [value]) := by
      rw [arguments_eq (List.forall_mem_singleton.2 item) form, List.mapM_cons, ← bind_assoc]
      exact referred.bind (fun _ => .of_local (.pure _)) fun _ => .pure _
    have called := argument_call named item.closed.inner item.smooth
      (.bind (local_termMeanings tags args) fun values =>
        .bind (local_value n values) fun _ => .pure _) single
    simp only [bind_assoc, pure_bind] at called
    exact called

end Compile

end TagRules
