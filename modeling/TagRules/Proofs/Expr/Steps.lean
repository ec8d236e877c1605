import TagRules.Proofs.Expr.Pieces

/-!
# Compiling a printed text, step by step

What each step of compiling does with the text that an expression is printed as: flattening puts the
parts of the expression into slots, and a flat text is read as the expression with its parts taken
from there. Slots that were filled before stay as they are.
-/

namespace TagRules

namespace Compile

variable {tags : Option TagStore}

/-- A step yields a result and keeps the slots. -/
def Gives {α : Type} (m : Compile α) (a : α) (d d' : Draft) : Prop :=
  StateT.run m d = .ok (a, d') ∧ d.slots <+: d'.slots

namespace Gives

variable {α β : Type} {m : Compile α} {a : α} {d d₁ d' : Draft}

theorem pure (a : α) (d : Draft) : Gives (pure a) a d d :=
  ⟨rfl, List.prefix_refl _⟩

theorem bind {k : α → Compile β} {b : β} (first : Gives m a d d₁) (second : Gives (k a) b d₁ d') :
    Gives (m >>= k) b d d' :=
  ⟨(bind_run_of_ok first.1).trans second.1, first.2.trans second.2⟩

/-- A step for each element of a list. -/
theorem mapM {f : β → Compile α} {g : β → α} {l : List β} (slots : List Slot)
    (each : ∀ b ∈ l, ∀ d, slots <+: d.slots → ∃ d', Gives (f b) (g b) d d') :
    ∀ d, slots <+: d.slots → ∃ d', Gives (l.mapM f) (l.map g) d d' := by
  induction l with
  | nil => exact fun d _ => ⟨d, .pure _ _⟩
  | cons b l ih =>
    intro d front
    obtain ⟨d₁, first⟩ := each b List.mem_cons_self d front
    obtain ⟨d₂, rest⟩ := ih (fun b mem => each b (List.mem_cons_of_mem _ mem)) d₁
      (front.trans first.2)
    rw [List.mapM_cons]
    exact ⟨d₂, first.bind (rest.bind (.pure _ _))⟩

theorem condition {e : Expr} (kind : e.kind = .bool) (d : Draft) : Gives (condition e) e d d :=
  ⟨condition_eq_ok.2 ⟨kind, rfl, rfl⟩, List.prefix_refl _⟩

theorem fill (slot : Slot) (d : Draft) : Gives (fill slot) (placeholder d.slots.length) d
    { d with slots := d.slots ++ [slot] } :=
  ⟨rfl, List.prefix_append _ _⟩

theorem slot? {n : Nat} {slot : Slot} (at' : d.slots[n]? = some slot) :
    Gives (slot? (placeholder n)) (some slot) d d := by
  refine ⟨?_, List.prefix_refl _⟩
  rw [slot?_run, placeholder?_placeholder, Option.bind_some, at']

end Gives

/-- A slot that is filled stays so. -/
theorem getElem?_mono {slots slots' : List Slot} (front : slots <+: slots') {n : Nat}
    {slot : Slot} (at' : slots[n]? = some slot) : slots'[n]? = some slot := by
  obtain ⟨rest, rfl⟩ := front
  obtain ⟨bound, -⟩ := List.getElem?_eq_some_iff.1 at'
  rwa [List.getElem?_append_left bound]

/-! ### Arguments -/

theorem text_eq_of_prepared {a : Operand} {s : String} : a.prepared = .text s ↔ a = .text s := by
  cases a <;> simp [Operand.prepared]

theorem textAt_prepared (args : List Operand) (index : Nat) :
    textAt (args.map (·.prepared)) index = textAt args index := by
  unfold textAt
  rw [List.getElem?_map]
  cases args[index]? with
  | none => rfl
  | some a => cases a <;> rfl

/-- The shape of arguments does not depend on the patterns in them. -/
theorem fits_prepared {signature : Signature} {args : List Operand}
    (fit : fits signature args = true) : fits signature (args.map (·.prepared)) = true := by
  unfold fits at fit
  split at fit <;> simp_all [fits, Operand.prepared]

theorem wrong_prepared (a : Operand) :
    notNumeric?.wrong a.prepared = none ↔ notNumeric?.wrong a = none := by
  cases a with
  | expr e =>
    rw [Operand.prepared, notNumeric?.wrong, notNumeric?.wrong, Expr.kind_prepared]
    split <;> simp
  | _ => rfl

theorem notNumeric?_prepared {signature : Signature} {args : List Operand}
    (numeric : notNumeric? signature args = none) :
    notNumeric? signature (args.map (·.prepared)) = none := by
  have each (numbers : args.findSome? notNumeric?.wrong = none) :
      (args.map (·.prepared)).findSome? notNumeric?.wrong = none := by
    rw [List.findSome?_eq_none_iff] at numbers ⊢
    intro b mem
    obtain ⟨a, inside, rfl⟩ := List.mem_map.1 mem
    exact (wrong_prepared a).2 (numbers a inside)
  cases signature <;> first | exact each numeric | rfl

theorem spelled_prepared {f : Builtin} {args : List Operand} (spelled : f.Spelled args) :
    f.Spelled (args.map (·.prepared)) := by
  unfold Builtin.Spelled at spelled ⊢
  split at spelled
  · exact spelled
  · exact spelled
  · next net key =>
    split
    · next here => exact absurd here (by simpa [List.map_eq_singleton_iff, text_eq_of_prepared] using net _)
    · next here => exact absurd here (by simpa [List.map_eq_singleton_iff, text_eq_of_prepared] using key _)
    · trivial

theorem pattern?_prepared (f : Builtin) (args : List Operand) :
    f.pattern? (args.map (·.prepared)) = f.pattern? args := by
  unfold Builtin.pattern?
  split
  · next a source here =>
    obtain ⟨x, rest, rfl, -, tail⟩ := List.map_eq_cons_iff.1 here
    obtain ⟨y, rfl, text⟩ := List.map_eq_singleton_iff.1 tail
    rw [text_eq_of_prepared.1 text]
  · next plain =>
    split
    · next a source => exact absurd rfl (plain a.prepared source rfl)
    · rfl

/-- A function that takes a literal has one text. -/
theorem eq_text_of_fits {f : Builtin} {args : List Operand} (literal : f.signature = .literal)
    (fit : fits f.signature args = true) : ∃ s, args = [.text s] := by
  unfold fits at fit
  split at fit <;> simp_all

/-- A tag of this name may be tested: where there is a store, it has one. -/
def Testable (tags : Option TagStore) (name : String) : Prop :=
  ∀ store ∈ tags, store.tagsByName name ≠ []

theorem testable_none (name : String) : Testable none name :=
  fun _ mem => absurd mem (Option.not_mem_none _)

/-- Arguments that are spelled properly are settled as they are. -/
theorem settled_of_spelled {f : Builtin} {args : List Operand} (fit : fits f.signature args = true)
    (spelled : f.Spelled args) (testable : f = .hasTag → Testable tags (textAt args 0)) (d : Draft) :
    ∃ d', Settled tags d f args args (f.pattern? args) d' := by
  by_cases other : f ∈ [.hasTag, .hasNet, .matching, .getConfig]
  · simp only [List.mem_cons, List.not_mem_nil, or_false] at other
    rcases other with rfl | rfl | rfl | rfl
    · obtain ⟨tag, rfl⟩ := eq_text_of_fits rfl fit
      cases tags with
      | none => exact ⟨d, .hasTag rfl⟩
      | some store => exact ⟨_, .hasTag (testTag_eq_ok.2 ⟨testable rfl store rfl, rfl⟩)⟩
    · obtain ⟨net, rfl⟩ := eq_text_of_fits rfl fit
      exact ⟨d, .hasNet spelled⟩
    · obtain ⟨a, source, rfl⟩ : ∃ a source, args = [a, .text source] := by
        unfold fits at fit
        split at fit <;> simp_all [Builtin.signature]
      cases read : Pattern.read source with
      | ok p =>
        rw [Builtin.pattern?, read]
        exact ⟨d, .matching read⟩
      | error r =>
        rw [Builtin.pattern?, read]
        exact ⟨_, .unmatched read⟩
    · obtain ⟨key, rfl⟩ := eq_text_of_fits rfl fit
      obtain ⟨setting, known, same⟩ := Option.map_eq_some_iff.1 spelled
      refine ⟨d, ?_⟩
      have settled : Settled tags d .getConfig [.text key] [.text setting.key] none d :=
        .getConfig known
      rwa [same] at settled
  · have none : f.pattern? args = none := by
      unfold Builtin.pattern?
      split
      · simp at other
      · rfl
    rw [none]
    exact ⟨d, .plain other⟩

/-- A call of a function with arguments that it takes. -/
theorem call_gives {f : Builtin} {name : String} {args : List Operand}
    (named : Builtin.ofName? name = some f) (fit : fits f.signature args = true)
    (numeric : notNumeric? f.signature args = none) (spelled : f.Spelled args)
    (testable : f = .hasTag → Testable tags (textAt args 0)) (d : Draft) :
    ∃ d', Gives (call tags name.toList args) (.call f name args (f.pattern? args)) d d' := by
  obtain ⟨d₁, settled⟩ := settled_of_spelled fit spelled testable d
  refine ⟨noteFunction d₁ f, call_eq_ok.2 ?_, ?_⟩
  · rw [String.ofList_toList]
    exact ⟨f, _, _, d₁, named, fit, numeric, settled, rfl, rfl⟩
  · have same : (noteFunction d₁ f).slots = d.slots :=
      (noteFunction_grows d₁ f).2.trans settled.grows.2
    exact same ▸ List.prefix_refl _

/-- So is a call of the arguments with the patterns in them. -/
theorem call_gives_prepared {f : Builtin} {name : String} {args : List Operand}
    (named : Builtin.ofName? name = some f) (fit : fits f.signature args = true)
    (numeric : notNumeric? f.signature args = none) (spelled : f.Spelled args)
    (testable : f = .hasTag → Testable tags (textAt args 0)) (d : Draft) :
    ∃ d', Gives (call tags name.toList (args.map (·.prepared)))
      (.call f name (args.map (·.prepared)) (f.pattern? args)) d d' := by
  have called := call_gives named (fits_prepared fit) (notNumeric?_prepared numeric)
    (spelled_prepared spelled) (fun tests => (textAt_prepared args 0).symm ▸ testable tests) d
  rwa [pattern?_prepared] at called

/-! ### Flat texts -/

theorem infix_joinWith (separator : List Char) {item : List Char} {items : List (List Char)}
    (mem : item ∈ items) : item <:+: joinWith separator items := by
  induction items with
  | nil => cases mem
  | cons first items ih =>
    cases items with
    | nil =>
      cases List.mem_singleton.1 mem
      exact List.infix_refl _
    | cons next items =>
      rw [joinWith]
      · rcases List.mem_cons.1 mem with rfl | mem
        · exact ⟨[], _, by rw [List.nil_append, List.append_assoc]⟩
        · exact (ih mem).trans (List.suffix_append _ _).isInfix
      · exact List.cons_ne_nil _ _

theorem joinWith_ne_nil (separator : List Char) {item : List Char} {items : List (List Char)}
    (mem : item ∈ items) (some : item ≠ []) : joinWith separator items ≠ [] := by
  have long := (infix_joinWith separator mem).length_le
  have first := List.length_pos_iff.2 some
  intro none
  rw [none, List.length_nil] at long
  omega

variable {fuel : Nat} {d : Draft}

theorem trim_placeholder (n : Nat) : Text.trim (placeholder n) = placeholder n :=
  (Tight.of_solid fun c mem => (placeholder_neutral n c mem).2).trim_eq_self

/-- The placeholder of an expression is read as the expression. -/
theorem basic_placeholder {n : Nat} {e : Expr} (at' : d.slots[n]? = some (.expr e)) :
    Gives (basic tags (fuel + 1) (placeholder n)) e d d := by
  have neutral := fun c mem => (placeholder_neutral n c mem).1
  have found := Gives.slot? at'
  unfold basic
  rw [combination?_of_neutral neutral, comparison?_eq_none neutral, if_neg (by simp [placeholder])]
  exact found.bind (.pure _ _)

/-- A negation. -/
theorem basic_not {n : Nat} {e : Expr} (kind : e.kind = .bool)
    (at' : d.slots[n]? = some (.expr e)) :
    Gives (basic tags (fuel + 2) ('!' :: placeholder n)) (.not e) d d := by
  have neutral : ∀ c ∈ '!' :: placeholder n, Neutral c := by
    intro c mem
    rcases List.mem_cons.1 mem with rfl | mem
    · decide
    · exact (placeholder_neutral n c mem).1
  rw [basic.eq_def]
  simp only [combination?_of_neutral neutral, comparison?_eq_none neutral, trim_placeholder]
  exact (basic_placeholder at').bind ((Gives.condition kind d).bind (.pure _ _))

/-- A name and a placeholder in parentheses are read as a call. -/
theorem basic_named (tags : Option TagStore) (fuel : Nat) {name : List Char} (some : name ≠ [])
    (letters : ∀ c ∈ name, Letter c) (n : Nat) :
    basic tags (fuel + 1) (name ++ '(' :: placeholder n ++ [')']) = (do
      match ← slot? (placeholder n) with
      | .some (.arguments raw) =>
        let args ← arguments tags fuel raw
        call tags name args
      | _ => reject (.unresolvedPlaceholder (String.ofList (placeholder n)))) := by
  have neutral : ∀ c ∈ name ++ '(' :: placeholder n ++ [')'], Neutral c := by
    intro c mem
    simp only [List.mem_append, List.mem_cons, List.not_mem_nil, or_false] at mem
    rcases mem with (mem | rfl | mem) | rfl
    · exact (letters c mem).2.1
    · decide
    · exact (placeholder_neutral n c mem).1
    · decide
  have paren : '(' ∉ name := fun mem => (letters _ mem).1.2.1 rfl
  have named := named?_append some paren (trim_placeholder n)
  rw [basic.eq_def]
  simp only [combination?_of_neutral neutral, comparison?_eq_none neutral]
  cases name with
  | nil => exact absurd rfl some
  | cons c name =>
    have first := (letters c List.mem_cons_self).2.2.1
    have notNot : c ≠ '!' := by
      rintro rfl
      exact first (by decide)
    have notBrace : c ≠ '{' := by
      rintro rfl
      exact first (by decide)
    rw [if_neg (by simp)]
    split
    · next here => exact absurd (List.cons.inj here).1 notNot
    · next here => exact absurd (List.cons.inj here).1 notBrace
    · split
      · next none =>
        rw [named] at none
        cases none
      · next found =>
        rw [named] at found
        cases found
        rfl

/-- A call whose arguments are in a slot. -/
theorem basic_call {name raw : List Char} {n : Nat} {args : List Operand} {e : Expr} {d₁ d' : Draft}
    (some : name ≠ []) (letters : ∀ c ∈ name, Letter c)
    (at' : d.slots[n]? = .some (.arguments raw)) (given : Gives (arguments tags fuel raw) args d d₁)
    (called : Gives (call tags name args) e d₁ d') :
    Gives (basic tags (fuel + 1) (name ++ '(' :: placeholder n ++ [')'])) e d d' := by
  rw [basic_named tags fuel some letters]
  exact (Gives.slot? at').bind (given.bind called)

/-- A combination of parts that are read as conditions. -/
theorem basic_joinWith (fuel : Nat) {separator : List Char} {combine : List Expr → Expr}
    (mem : (separator, combine) ∈ combinations) (parts : List (List Char × Expr))
    (several : 2 ≤ parts.length) (some : ∀ p ∈ parts, p.1 ≠ [])
    (plain : ∀ p ∈ parts, ∀ c ∈ p.1,
      isQuote c = false ∧ Text.isBlank c = false ∧ c ∉ signs separator)
    (kinds : ∀ p ∈ parts, p.2.kind = .bool)
    (each : ∀ p ∈ parts, ∀ d', d.slots <+: d'.slots →
      ∃ d'', Gives (basic tags fuel p.1) p.2 d' d'') :
    ∃ d', Gives (basic tags (fuel + 1) (joinWith separator (parts.map (·.1))))
      (combine (parts.map (·.2))) d d' := by
  have plain' : ∀ part ∈ parts.map (·.1), ∀ c ∈ part, isQuote c = false ∧ c ∉ signs separator := by
    intro part inside c mem
    obtain ⟨p, here, rfl⟩ := List.mem_map.1 inside
    exact ⟨(plain p here c mem).1, (plain p here c mem).2.2⟩
  have solid : (parts.map (·.1)).any Text.blank = false := by
    rw [List.any_eq_false]
    intro part inside
    obtain ⟨p, here, rfl⟩ := List.mem_map.1 inside
    intro blank
    obtain ⟨c, mem⟩ := List.exists_mem_of_ne_nil _ (some p here)
    have solid := List.all_eq_true.1 blank c mem
    rw [(plain p here c mem).2.1] at solid
    cases solid
  have cut := combination?_joinWith mem (by rwa [List.length_map]) plain'
  have some' : joinWith separator (parts.map (·.1)) ≠ [] := by
    obtain ⟨p, here⟩ := List.exists_mem_of_ne_nil parts (by rintro rfl; simp at several)
    exact joinWith_ne_nil separator (List.mem_map_of_mem here) (some p here)
  obtain ⟨d', read⟩ := Gives.mapM (f := fun p : List Char × Expr => do
      let e ← basic tags fuel (Text.trim p.1)
      condition e) (g := (·.2)) d.slots (l := parts) (fun p here d' front => by
    obtain ⟨d'', read⟩ := each p here d' front
    have trimmed := (Tight.of_solid fun c mem => (plain p here c mem).2.1).trim_eq_self
    rw [← trimmed] at read
    exact ⟨d'', read.bind (.condition (kinds p here) _)⟩) d (List.prefix_refl _)
  refine ⟨d', ?_⟩
  rw [basic.eq_def]
  simp only [cut, solid]
  rw [if_neg (by simpa using some'), if_neg Bool.false_ne_true, List.mapM_map]
  exact read.bind (.pure _ _)

/-! ### Pieces -/

/-- What stands for a piece in the flat text. -/
def part (tags : Option TagStore) (fuel : Nat) : Piece → Compile (List Char)
  | .plain c => pure [c]
  | .arguments inner => do
    let key ← fill (.arguments inner)
    return '(' :: key ++ [')']
  | .group inner => do
    let e ← start tags fuel inner
    fill (.expr e)

theorem flatten_succ (tags : Option TagStore) (fuel : Nat) (pieces : List Piece) :
    flatten tags (fuel + 1) pieces = do
      let parts ← pieces.mapM (part tags fuel)
      return parts.flatten := by
  unfold flatten
  congr 2

/-- Plain pieces stay as they are. -/
theorem mapM_part_plain (tags : Option TagStore) (fuel : Nat) (s : List Char) :
    (s.map .plain).mapM (part tags fuel) = pure (s.map ([·])) := by
  rw [List.mapM_map]
  exact List.mapM_pure

/-- Pieces are flattened to a text. -/
def Flattens (tags : Option TagStore) (fuel : Nat) (pieces : List Piece) (text : List Char) (d d' : Draft) : Prop :=
  ∃ parts, Gives (pieces.mapM (part tags fuel)) parts d d' ∧ parts.flatten = text

namespace Flattens

variable {pieces pieces' : List Piece} {text text' : List Char} {d d₁ d' : Draft}

theorem append (first : Flattens tags fuel pieces text d d₁) (second : Flattens tags fuel pieces' text' d₁ d') :
    Flattens tags fuel (pieces ++ pieces') (text ++ text') d d' := by
  obtain ⟨parts, first, rfl⟩ := first
  obtain ⟨parts', second, rfl⟩ := second
  refine ⟨parts ++ parts', ?_, List.flatten_append⟩
  rw [List.mapM_append]
  exact first.bind (second.bind (.pure _ _))

theorem plain (s : List Char) (d : Draft) : Flattens tags fuel (s.map .plain) s d d := by
  induction s with
  | nil => exact ⟨[], .pure _ _, rfl⟩
  | cons c s ih =>
    obtain ⟨parts, rest, same⟩ := ih
    refine ⟨[c] :: parts, ?_, by rw [List.flatten_cons, same]; rfl⟩
    rw [List.map_cons, List.mapM_cons]
    exact (Gives.pure [c] d).bind (rest.bind (.pure _ _))

theorem slots (h : Flattens tags fuel pieces text d d') : d.slots <+: d'.slots := by
  obtain ⟨parts, gives, -⟩ := h
  exact gives.2

theorem singleton {piece : Piece} (h : Gives (part tags fuel piece) text d d') :
    Flattens tags fuel [piece] text d d' := by
  refine ⟨[text], ?_, by simp⟩
  rw [List.mapM_cons]
  exact h.bind ((Gives.pure [] d').bind (.pure _ _))

/-- The placeholder of a group stands for what it is compiled to. -/
theorem group {inner : List Char} {e : Expr} (started : Gives (start tags fuel inner) e d d₁) :
    ∃ n d', Flattens tags fuel [.group inner] (placeholder n) d d' ∧ d'.slots[n]? = some (.expr e) :=
  ⟨d₁.slots.length, _, .singleton (Gives.bind (k := fun e => fill (.expr e)) started (.fill _ d₁)),
    by simp⟩

/-- The placeholder of arguments stands for their text. -/
theorem arguments (raw : List Char) (d : Draft) :
    ∃ n d', Flattens tags fuel [.arguments raw] ('(' :: placeholder n ++ [')']) d d' ∧
      d'.slots[n]? = some (.arguments raw) :=
  ⟨d.slots.length, _, .singleton ((Gives.fill (.arguments raw) d).bind (.pure _ _)), by simp⟩

end Flattens

/-- A text with parentheses or a comparison. -/
def Composite (text : List Char) : Prop :=
  ∃ c ∈ text, c ∈ ['(', '=', '<', '>']

theorem Composite.exists_solid {text : List Char} (h : Composite text) :
    ∃ c ∈ text, Text.isBlank c = false := by
  obtain ⟨c, mem, sign⟩ := h
  have solid : ∀ c ∈ ['(', '=', '<', '>'], Text.isBlank c = false := by decide
  exact ⟨c, mem, solid c sign⟩

/-- No such text is a literal. -/
theorem Composite.not_literal {text : List Char} (h : Composite text) :
    text ≠ [] ∧ Text.eqIgnoringCase text "true".toList = false ∧
      Text.eqIgnoringCase text "false".toList = false := by
  obtain ⟨c, mem, sign⟩ := h
  have other (word : List Char) (absent : c.toLower ∉ Text.lowerAscii word) :
      Text.eqIgnoringCase text word = false := by
    cases same : Text.eqIgnoringCase text word with
    | false => rfl
    | true =>
      have equal : Text.lowerAscii text = Text.lowerAscii word := by
        simpa [Text.eqIgnoringCase] using same
      exact absurd (equal ▸ List.mem_map_of_mem (f := Char.toLower) mem) absent
  have absent : ∀ c ∈ ['(', '=', '<', '>'], c.toLower ∉ Text.lowerAscii "true".toList ∧
      c.toLower ∉ Text.lowerAscii "false".toList := by decide
  exact ⟨List.ne_nil_of_mem mem, other _ (absent c sign).1, other _ (absent c sign).2⟩

/-- A composite text is compiled by way of its flat text. -/
theorem start_composite (tags : Option TagStore) (fuel : Nat) {text : List Char}
    {pieces : List Piece} (composite : Composite (Text.trim text))
    (cut : piecesOf (Text.trim text) = (pieces, .complete)) :
    start tags (fuel + 1) text = (do
      let flat ← flatten tags fuel pieces
      basic tags fuel flat) := by
  obtain ⟨nonempty, notTrue, notFalse⟩ := composite.not_literal
  have some := List.isEmpty_eq_false_iff.2 nonempty
  rw [start.eq_def]
  simp only [some, notTrue, notFalse, cut, Bool.false_eq_true, if_false]

theorem start_gives {text flat : List Char} {pieces : List Piece} {e : Expr} {d d₁ d' : Draft}
    (trimmed : Text.trim text = text) (composite : Composite text)
    (cut : piecesOf text = (pieces, .complete)) (flattens : Flattens tags fuel pieces flat d d₁)
    (read : Gives (basic tags (fuel + 1) flat) e d₁ d') :
    Gives (start tags (fuel + 2) text) e d d' := by
  obtain ⟨parts, parts', rfl⟩ := flattens
  rw [start_composite tags (fuel + 1) (by rwa [trimmed]) (by rwa [trimmed]), flatten_succ]
  have flat : Gives (do let parts ← pieces.mapM (part tags fuel); return parts.flatten)
      parts.flatten d d₁ := parts'.bind (.pure _ _)
  exact flat.bind read

theorem Word.unique {token : List Char} {a a' : Operand} {d d₁ d₂ : Draft} (h : Word d token a d₁)
    (h' : Word d token a' d₂) : a = a' ∧ d₁ = d₂ := by
  cases h <;> cases h' <;> simp_all

/-! ### Arguments by their texts -/

/-- What is neither quoted, nor a placeholder, nor has parentheses is a word. -/
theorem argument_word (tags : Option TagStore) (fuel : Nat) {item : List Char}
    (quote : (item.head?.map isQuote).getD false = false) (brace : item.head? ≠ some '{')
    (paren : '(' ∉ item) : argument tags (fuel + 1) item = word item := by
  have noParen : ¬item.contains '(' = true := fun mem => paren (List.contains_iff_mem.1 mem)
  rw [argument.eq_def]
  simp only []
  rw [if_neg (by simp [quote]), if_neg brace, if_neg noParen]

/-- An argument with parentheses, neither a text nor a placeholder, is compiled on its own. -/
theorem argument_paren (tags : Option TagStore) (fuel : Nat) {item : List Char} (paren : '(' ∈ item)
    (first : ∀ c ∈ item.head?, isQuote c = false ∧ c ≠ '{') :
    argument tags (fuel + 1) item = (do
      let e ← start tags fuel item
      return .expr e) := by
  have paren' : item.contains '(' = true := List.contains_iff_mem.2 paren
  obtain ⟨c, rest, rfl⟩ := List.exists_cons_of_ne_nil (List.ne_nil_of_mem paren)
  obtain ⟨quote, brace⟩ := first c rfl
  rw [argument.eq_def]
  simp only [List.head?_cons, Option.map_some, Option.getD_some, quote, paren']
  rw [if_neg Bool.false_ne_true, if_neg (by simpa using brace), if_pos trivial]

/-- A placeholder is read as what is in its slot. -/
theorem argument_placeholder (tags : Option TagStore) (fuel n : Nat) :
    argument tags (fuel + 1) (placeholder n) = (do
      match ← slot? (placeholder n) with
      | .some (.expr e) => return .expr e
      | .some (.arguments raw) =>
        match ← arguments tags fuel raw with
        | [value] => return value
        | _ => reject (.ambiguousReference (String.ofList (placeholder n)))
      | .none => reject (.unresolvedPlaceholder (String.ofList (placeholder n)))) := by
  have quote : isQuote '\x7b' = false := rfl
  rw [argument.eq_def]
  simp only [placeholder, List.cons_append, List.head?_cons, Option.map_some, Option.getD_some, quote]
  exact (if_neg Bool.false_ne_true).trans (if_pos trivial)

theorem mapM_congr {α β : Type} {f g : β → Compile α} {l : List β} (same : ∀ b ∈ l, f b = g b) :
    l.mapM f = l.mapM g := by
  induction l with
  | nil => rfl
  | cons b l ih =>
    rw [List.mapM_cons, List.mapM_cons, same b List.mem_cons_self,
      ih fun c mem => same c (List.mem_cons_of_mem _ mem)]

/-- A list of arguments is read item by item. -/
theorem arguments_of_cut (tags : Option TagStore) (fuel : Nat) {raw : List Char}
    {items : List (List Char)} (none : Text.trim raw = [] → items = [])
    (cut : Text.trim raw ≠ [] → argumentsOf (Text.trim raw) = items)
    (some : ∀ item ∈ items, item ≠ []) :
    arguments tags (fuel + 1) raw = items.mapM (argument tags fuel) := by
  rw [arguments.eq_def]
  simp only []
  split
  · next empty =>
    rw [none (List.isEmpty_iff.1 empty)]
    rfl
  · next empty =>
    rw [cut (by simpa using empty)]
    refine mapM_congr fun item mem => ?_
    rw [if_neg (by simpa using some item mem)]

/-- A token is read as the argument that it stands for. -/
theorem Token.gives {token : List Char} {a : Operand} (h : Token token a) (d : Draft) :
    ∃ d', Gives (argument tags (fuel + 1) token) a d d' := by
  obtain ⟨d', reads⟩ := h.reads d
  obtain ⟨a', d₁, run, reads'⟩ := word_run token d
  obtain ⟨rfl, rfl⟩ := reads.unique reads'
  refine ⟨d', ?_, reads.grows.1.slots⟩
  rw [argument_word tags fuel h.bare.quote h.bare.brace h.bare.paren]
  exact run

theorem argument_start {item : List Char} {e : Expr} {d d' : Draft} (paren : '(' ∈ item)
    (first : ∀ c ∈ item.head?, isQuote c = false ∧ c ≠ '{')
    (started : Gives (start tags fuel item) e d d') :
    Gives (argument tags (fuel + 1) item) (.expr e) d d' := by
  rw [argument_paren tags fuel paren first]
  exact started.bind (.pure _ _)

/-- Nothing precedes the parentheses of an expression that would make it another argument. -/
theorem argument_expr {e : Expr} (formed : e.Formed Operand.Legible) {d d' : Draft}
    (started : Gives (start tags fuel e.chars) e.prepared d d') :
    Gives (argument tags (fuel + 1) e.chars) (.expr e.prepared) d d' := by
  refine argument_start formed.paren_mem (fun c first => ?_) started
  rw [formed.chars_eq] at first
  cases front : e.front with
  | nil =>
    rw [front] at first
    cases first
    exact ⟨rfl, by decide⟩
  | cons d rest =>
    have letters := formed.front_letters
    rw [front] at first letters
    cases first
    have ordinary := letters c List.mem_cons_self
    refine ⟨ordinary.1.1, ?_⟩
    rintro rfl
    exact ordinary.2.2 (by decide)

/-- A text literal. -/
theorem argument_text (s : String) (d : Draft) :
    Gives (argument tags (fuel + 1) ('"' :: s.toList ++ ['"'])) (.text s) d d := by
  have quote : isQuote '"' = true := rfl
  refine ⟨?_, List.prefix_refl _⟩
  rw [argument.eq_def]
  simp only [List.cons_append, List.head?_cons, Option.map_some, Option.getD_some, quote, if_true]
  exact literal_eq_ok.2 ⟨by simp, by simp [quote], by simp, rfl⟩

/-- An argument that is printed is read again. -/
theorem argument_gives (fuel : Nat) {a : Operand} (legible : a.Legible)
    (nested : ∀ e, .expr e = a → e.Formed Operand.Legible ∧
      ∀ d, ∃ d', Gives (start tags fuel e.chars) e.prepared d d') (d : Draft) :
    a.chars ≠ [] ∧ ∃ d', Gives (argument tags (fuel + 1) a.chars) a.prepared d d' := by
  cases a with
  | text s =>
    rw [Operand.chars]
    exact ⟨List.cons_ne_nil _ _, d, argument_text s d⟩
  | number n =>
    rw [Operand.chars]
    exact ⟨(token_number legible).bare.nonempty, (token_number legible).gives d⟩
  | keyword k =>
    rw [Operand.chars]
    exact ⟨(token_keyword k).bare.nonempty, (token_keyword k).gives d⟩
  | bare word =>
    rw [Operand.chars]
    exact ⟨legible.bare.nonempty, legible.gives d⟩
  | expr e =>
    obtain ⟨formed, started⟩ := nested e rfl
    obtain ⟨d', started⟩ := started d
    rw [Operand.chars]
    exact ⟨List.ne_nil_of_mem formed.paren_mem, d', argument_expr formed started⟩

/-- A list of closed arguments is read one by one, with or without blanks between them. -/
theorem arguments_of_solid (tags : Option TagStore) (fuel : Nat) {items : List (List Char)}
    (closed : ∀ item ∈ items, Closed item) (some : ∀ item ∈ items, item ≠ []) {raw : List Char}
    (form : solid raw = joinWith [','] items) (steady : Quote.Steady {} {} raw) :
    arguments tags (fuel + 1) raw = items.mapM (argument tags fuel) := by
  have inner : Inner (joinWith [','] items) := inner_joinWith (by decide) closed
  have trimmed : solid (Text.trim raw) = joinWith [','] items := by
    rw [solid_trim, form, inner.trim_eq_self]
  refine arguments_of_cut tags fuel (fun none => ?_) (fun nonempty => ?_) some
  · rw [none] at trimmed
    cases items with
    | nil => rfl
    | cons first items =>
      exact absurd trimmed.symm (joinWith_ne_nil [','] List.mem_cons_self (some first List.mem_cons_self))
  · have several : items ≠ [] := by
      rintro rfl
      exact (Text.tight_trim raw).solid_ne_nil nonempty trimmed
    rw [argumentsOf, ← argumentsFrom_solid steady.trim 0]
    change argumentsOf (solid (Text.trim raw)) = items
    rw [trimmed, argumentsOf_joinWith several closed]

/-- So arguments that can be read yield a list of their values. -/
theorem arguments_gives_of_solid (fuel : Nat) (items : List (List Char × Operand))
    (closed : ∀ p ∈ items, Closed p.1) (some : ∀ p ∈ items, p.1 ≠ []) {raw : List Char}
    (form : solid raw = joinWith [','] (items.map (·.1))) (steady : Quote.Steady {} {} raw)
    {d : Draft} (each : ∀ p ∈ items, ∀ d', d.slots <+: d'.slots →
      ∃ d'', Gives (argument tags fuel p.1) p.2 d' d'') :
    ∃ d', Gives (arguments tags (fuel + 1) raw) (items.map (·.2)) d d' := by
  rw [arguments_of_solid tags fuel (List.forall_mem_map.2 closed) (List.forall_mem_map.2 some) form
    steady, List.mapM_map]
  exact Gives.mapM d.slots each d (List.prefix_refl _)

/-- Arguments between commas are read one by one. -/
theorem arguments_gives (fuel : Nat) (items : List (List Char × Operand))
    (closed : ∀ p ∈ items, Closed p.1) (some : ∀ p ∈ items, p.1 ≠ []) {d : Draft}
    (each : ∀ p ∈ items, ∀ d', d.slots <+: d'.slots →
      ∃ d'', Gives (argument tags fuel p.1) p.2 d' d'') :
    ∃ d', Gives (arguments tags (fuel + 1) (joinWith [','] (items.map (·.1))))
      (items.map (·.2)) d d' := by
  have inner : Inner (joinWith [','] (items.map (·.1))) :=
    inner_joinWith (by decide) (List.forall_mem_map.2 closed)
  exact arguments_gives_of_solid fuel items closed some inner.solid_eq_self
    (Quote.steady_of_solid_eq inner.solid_eq_self) each

end Compile

end TagRules
