import TagRules.Proofs.Expr.Canonical
import TagRules.Proofs.Expr.Reading

/-!
# Calls as they are written

`Compile.Spells` says what the text of an argument stands for, apart from compiling: a literal for the
text in it, a token for what it names, and a call for the call of what its arguments stand for. The
compiler agrees with it, however blanks are put outside of literals (`Compile.compiles_call`).

So a text is taken as it is written, wherever a function takes any text (`Compile.literal_verbatim`).
A curved quote in it must be escaped, or it ends the literal; where it does, what stands outside must
not be cut.
-/

namespace TagRules

/-- The arguments before and after one that may be any text. -/
inductive Builtin.TakesText : Builtin → List Operand → List Operand → Prop
  | alone {f} (free : f ∈ [.hasTag, .hasTagGroup, .countTag, .javascript]) : TakesText f [] []
  | searched (a : Operand) : TakesText .contains [] [a]
  | sought (a : Operand) : TakesText .contains [a] []
  | matched (pattern : String) : TakesText .matching [] [.text pattern]
  | pattern (a : Operand) : TakesText .matching [a] []

namespace Compile

variable {tags : Option TagStore}

/-- The arguments have the shape that the function needs and are spelled as the compiler spells them,
and a tag among them may be tested. -/
structure Accepts (tags : Option TagStore) (f : Builtin) (args : List Operand) : Prop where
  fit : fits f.signature args = true
  numeric : notNumeric? f.signature args = none
  spelled : f.Spelled args
  testable : f = .hasTag → Testable tags (textAt args 0)

/-- The text of a call. -/
def callText (name : String) (items : List (List Char)) : List Char :=
  name.toList ++ '(' :: joinWith [','] items ++ [')']

/-- A call as it is compiled. -/
def called (f : Builtin) (name : String) (args : List Operand) : Expr :=
  .call f name args (f.pattern? args)

/-- What the text of an argument stands for. -/
inductive Spells (tags : Option TagStore) : List Char → Operand → Prop
  | text {s : String} (whole : Closed ('"' :: s.toList ++ ['"'])) :
    Spells tags ('"' :: s.toList ++ ['"']) (.text s)
  | token {token a} (reads : Token token a) : Spells tags token a
  | condition {e : Expr} (formed : e.Formed Operand.Legible) (testable : e.Testable tags) :
    Spells tags e.chars (.expr e.prepared)
  | call {f name} {parts : List (List Char × Operand)} (named : Builtin.ofName? name = some f)
    (each : ∀ p ∈ parts, Spells tags p.1 p.2) (accepts : Accepts tags f (parts.map (·.2))) :
    Spells tags (callText name (parts.map (·.1))) (.expr (called f name (parts.map (·.2))))

/-- A text that is an item of a list of arguments, and what it is read as. -/
structure Readable (tags : Option TagStore) (text : List Char) (a : Operand) : Prop where
  some : text ≠ []
  closed : Closed text
  reads : ∀ fuel d, 4 * Text.ink text + 3 ≤ fuel → ∃ d', Gives (argument tags fuel text) a d d'

variable {f : Builtin} {name : String} {parts : List (List Char × Operand)}

theorem inner_of_readable (each : ∀ p ∈ parts, Readable tags p.1 p.2) :
    Inner (joinWith [','] (parts.map (·.1))) := by
  apply inner_joinWith
  · decide
  · exact List.forall_mem_map.2 fun p mem => (each p mem).closed

/-- The text of an argument is shorter than that of the call. -/
theorem ink_lt_callText (named : Builtin.ofName? name = some f) {p : List Char × Operand}
    (mem : p ∈ parts) : Text.ink p.1 + 3 ≤ Text.ink (callText name (parts.map (·.1))) := by
  obtain ⟨some, letters⟩ := Builtin.letters named
  have first : 0 < Text.ink name.toList :=
    (Tight.of_solid fun c mem => (letters c mem).1.2.2.2.2).ink_pos some
  have part : Text.ink p.1 ≤ Text.ink (joinWith [','] (parts.map (·.1))) :=
    Text.ink_le_of_infix (infix_joinWith [','] (List.mem_map_of_mem mem))
  rw [callText, List.append_assoc, Text.ink_append, Text.ink_parenthesized]
  omega

/-- With enough fuel, a call is compiled from its arguments, with or without blanks outside of its
literals. -/
theorem start_called (named : Builtin.ofName? name = some f)
    (each : ∀ p ∈ parts, Readable tags p.1 p.2) (accepts : Accepts tags f (parts.map (·.2)))
    {text : List Char} (form : solid text = callText name (parts.map (·.1)))
    (steady : Quote.Steady {} {} text) {fuel : Nat} (enough : 4 * Text.ink text + 2 ≤ fuel)
    (d : Draft) : ∃ d', Gives (start tags fuel text) (called f name (parts.map (·.2))) d d' := by
  obtain ⟨some, letters⟩ := Builtin.letters named
  have paren : '(' ∈ solid text := by simp [form, callText]
  have first := Text.ink_pos paren rfl
  rw [solid, Quote.ink_solid] at first
  obtain ⟨fuel, rfl⟩ : ∃ k, fuel = k + 3 := ⟨fuel - 3, by omega⟩
  obtain ⟨inside, same, steady, started⟩ :=
    start_call tags (fuel + 1) named (inner_of_readable each) form steady
  have read (p : List Char × Operand) (mem : p ∈ parts) (d : Draft) :
      ∃ d', Gives (argument tags fuel p.1) p.2 d d' := by
    have shorter := ink_lt_callText named mem
    rw [← form, solid, Quote.ink_solid] at shorter
    exact (each p mem).reads fuel d (by omega)
  have filled := Gives.fill (.arguments inside) d
  obtain ⟨d₁, given⟩ := arguments_gives_of_solid fuel parts (fun p mem => (each p mem).closed)
    (fun p mem => (each p mem).some) same steady fun p mem d' _ => read p mem d'
  obtain ⟨d', call⟩ := call_gives named accepts.fit accepts.numeric accepts.spelled
    accepts.testable d₁
  refine ⟨d', ?_⟩
  rw [started]
  exact filled.bind (basic_call some letters List.getElem?_concat_length given call)

/-- What is spelled is read as what it stands for. -/
theorem Spells.readable {text : List Char} {a : Operand} (h : Spells tags text a) :
    Readable tags text a := by
  induction h with
  | @text s whole =>
    refine ⟨List.cons_ne_nil _ _, whole, fun fuel d enough => ?_⟩
    obtain ⟨fuel, rfl⟩ : ∃ k, fuel = k + 1 := ⟨fuel - 1, by omega⟩
    exact ⟨d, argument_text s d⟩
  | token reads =>
    refine ⟨reads.bare.nonempty, reads.closed, fun fuel d enough => ?_⟩
    obtain ⟨fuel, rfl⟩ : ∃ k, fuel = k + 1 := ⟨fuel - 1, by omega⟩
    exact reads.gives d
  | condition formed testable =>
    refine ⟨List.ne_nil_of_mem formed.paren_mem, formed.closed, fun fuel d enough => ?_⟩
    obtain ⟨fuel, rfl⟩ : ∃ k, fuel = k + 1 := ⟨fuel - 1, by omega⟩
    obtain ⟨d', started⟩ := (formed.inverts testable).start formed (show _ ≤ fuel by omega) d
    exact ⟨d', argument_expr formed started⟩
  | @call f name parts named each accepts ih =>
    have closed := Term.closed_of_named named (inner_of_readable ih)
    have paren : '(' ∈ callText name (parts.map (·.1)) := by simp [callText]
    refine ⟨List.ne_nil_of_mem paren, closed, fun fuel d enough => ?_⟩
    obtain ⟨fuel, rfl⟩ : ∃ k, fuel = k + 1 := ⟨fuel - 1, by omega⟩
    have same : solid (callText name (parts.map (·.1))) = _ := closed.inner.solid_eq_self
    obtain ⟨d', started⟩ := start_called named ih accepts same (Quote.steady_of_solid_eq same)
      (show _ ≤ fuel by omega) d
    exact ⟨d', argument_start paren (head_of_named named _) started⟩

/-- However blanks are put outside of its literals, a text is compiled to an expression. A blank
after a backslash is an exception where it stands before a quote. -/
def Compiles (tags : Option TagStore) (s : List Char) (e : Expr) : Prop :=
  ∀ text : String, solid text.toList = s → Quote.Steady {} {} text.toList →
    ∃ c, compile tags text = .ok c ∧ c.expr = e

/-- A call that is a condition is compiled to the call of what its arguments stand for. -/
theorem compiles_call (named : Builtin.ofName? name = some f) (kind : f.result = .bool)
    (each : ∀ p ∈ parts, Spells tags p.1 p.2) (accepts : Accepts tags f (parts.map (·.2))) :
    Compiles tags (callText name (parts.map (·.1))) (called f name (parts.map (·.2))) := by
  intro text form steady
  have paren : '(' ∈ solid text.toList := by simp [form, callText]
  have composite : Composite text.toList :=
    ⟨'(', (Quote.mem_solid {} rfl).1 paren, by decide⟩
  have compiled := compile_of_start (e := called f name _) composite kind fun fuel enough =>
    start_called named (fun p mem => (each p mem).readable) accepts form steady enough {}
  rwa [String.ofList_toList] at compiled

/-- A function accepts a text where it takes any. -/
theorem accepts_text {s : String} {before after : List Operand} (takes : f.TakesText before after)
    (testable : f = .hasTag → Testable tags s) : Accepts tags f (before ++ .text s :: after) := by
  cases takes with
  | alone free =>
    simp only [List.mem_cons, List.not_mem_nil, or_false] at free
    rcases free with rfl | rfl | rfl | rfl <;> exact ⟨rfl, rfl, trivial, testable⟩
  | searched a => exact ⟨rfl, rfl, trivial, fun same => absurd same (by decide)⟩
  | sought a => exact ⟨rfl, rfl, trivial, fun same => absurd same (by decide)⟩
  | matched pattern => exact ⟨rfl, rfl, trivial, fun same => absurd same (by decide)⟩
  | pattern a => exact ⟨rfl, rfl, trivial, fun same => absurd same (by decide)⟩

/-- A text among others that are spelled. -/
theorem spells_among {before after : List (List Char × Operand)} {text : List Char} {a : Operand}
    (others : ∀ p ∈ before ++ after, Spells tags p.1 p.2) (here : Spells tags text a) :
    ∀ p ∈ before ++ (text, a) :: after, Spells tags p.1 p.2 := by
  obtain ⟨early, late⟩ := List.forall_mem_append.1 others
  exact List.forall_mem_append.2 ⟨early, List.forall_mem_cons.2 ⟨here, late⟩⟩

/-- Wherever a function takes any text, a call with a literal there is compiled to the call with the
text of the literal, character for character. A call that yields no condition is compiled so as an
argument of another one. The quotes of the literal have to keep it together (`closed_quoted`). -/
theorem literal_verbatim {s : String} (whole : Closed ('"' :: s.toList ++ ['"']))
    (named : Builtin.ofName? name = some f) {before after : List (List Char × Operand)}
    (takes : f.TakesText (before.map (·.2)) (after.map (·.2)))
    (others : ∀ p ∈ before ++ after, Spells tags p.1 p.2) (testable : f = .hasTag → Testable tags s) :
    let text := callText name (before.map (·.1) ++ ('"' :: s.toList ++ ['"']) :: after.map (·.1))
    let call := called f name (before.map (·.2) ++ .text s :: after.map (·.2))
    (f.result = .bool → Compiles tags text call) ∧
      ∀ (g : Builtin) (outer : String) (left right : List (List Char × Operand)),
        Builtin.ofName? outer = some g → g.result = .bool →
        (∀ p ∈ left ++ right, Spells tags p.1 p.2) →
        Accepts tags g (left.map (·.2) ++ .expr call :: right.map (·.2)) →
        Compiles tags (callText outer (left.map (·.1) ++ text :: right.map (·.1)))
          (called g outer (left.map (·.2) ++ .expr call :: right.map (·.2))) := by
  intro text call
  have accepts := accepts_text takes testable
  have each := spells_among others (Spells.text whole)
  constructor
  · intro kind
    have compiles := compiles_call named kind each (by simpa using accepts)
    simpa [text, call] using compiles
  · intro g outer left right named' kind spelled accepts'
    have within : Spells tags text (.expr call) := by
      have spells := Spells.call named each (by simpa using accepts)
      simpa [text, call] using spells
    have compiles := compiles_call named' kind (spells_among spelled within) (by simpa using accepts')
    simpa using compiles

/-- A text with operators, a comma, an open parenthesis, a brace and an escaped curved quote. -/
def crowded : String :=
  "x, (y || {0} \\“z"

/-- The text after a keyword in another spelling, with blanks around both, and in a call that yields
a number. -/
theorem crowded_verbatim :
    Closed ('"' :: crowded.toList ++ ['"']) ∧
      Builtin.contains.TakesText [.keyword .name] [] ∧ Builtin.countTag.TakesText [] [] ∧
      Spells none "Name".toList (.keyword .name) ∧ Spells none "0".toList (.number (.ofNat 0)) ∧
      (∃ c, compile none "contains( Name , \"x, (y || {0} \\“z\" )" = .ok c ∧
        c.expr = .call .contains "contains" [.keyword .name, .text crowded] none) ∧
      ∃ c, compile none "isGT(countTag(\"x, (y || {0} \\“z\"), 0)" = .ok c ∧
        c.expr = .call .isGT "isGT"
          [.expr (.call .countTag "countTag" [.text crowded] none), .number (.ofNat 0)] none := by
  have whole : Closed ('"' :: crowded.toList ++ ['"']) := closed_quoted (by decide) (by decide)
  have keyword : Spells none "Name".toList (.keyword .name) :=
    .token (token_of_ofWord? (by decide +kernel))
  have zero : Spells none "0".toList (.number (.ofNat 0)) :=
    .token (token_of_number? (by decide +kernel))
  have sought := @literal_verbatim none .contains "contains" crowded whole (by decide +kernel)
    [("Name".toList, .keyword .name)] [] (.sought _) (List.forall_mem_singleton.2 keyword)
    fun _ => testable_none _
  have counted := @literal_verbatim none .countTag "countTag" crowded whole (by decide +kernel)
    [] [] (.alone (by decide)) (by simp) fun _ => testable_none _
  have contained := sought.1 rfl "contains( Name , \"x, (y || {0} \\“z\" )" (by decide +kernel)
    (Unescaped.steady (by decide +kernel))
  have compared := counted.2 .isGT "isGT" [] [("0".toList, .number (.ofNat 0))] (by decide +kernel)
    rfl (List.forall_mem_singleton.2 zero) ⟨rfl, rfl, trivial, fun _ => testable_none _⟩
    "isGT(countTag(\"x, (y || {0} \\“z\"), 0)" (by decide +kernel) (Unescaped.steady (by decide +kernel))
  exact ⟨whole, .sought _, .alone (by decide), keyword, zero, contained, compared⟩

/-- A curved quote that is not escaped ends the literal. -/
theorem curved_refused : '"' ∉ "a“b".toList ∧ "a“b".toList.getLast? ≠ some '\\' ∧
    ∀ c, compile none "hasTag(\"a“b\")" ≠ .ok c := by
  refine ⟨by decide, by decide, fun c compiled => ?_⟩
  have refused : (compile none "hasTag(\"a“b\")").isOk = false := by decide +kernel
  rw [compiled] at refused
  cases refused

end Compile

end TagRules
