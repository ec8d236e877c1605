import TagRules.Proofs.Expr.Dependencies
import TagRules.Proofs.Expr.Tier

/-!
# Compiling inverts printing

A printed expression takes one slot in the text that it stands in, and its flat text is read as the
expression again. The induction is on the expression; four units of fuel for each character that is not blank
are enough.
-/

namespace TagRules

namespace Expr

open Compile

/-- All tags that an expression tests may be tested. -/
def Testable (tags : Option TagStore) (e : Expr) : Prop :=
  ∀ args, (.hasTag, args) ∈ e.calls → Compile.Testable tags (textAt args 0)

theorem testable_none (e : Expr) : e.Testable none :=
  fun args _ => Compile.testable_none (textAt args 0)

variable {tags : Option TagStore}

theorem Testable.of_combine {separator : List Char} {combine : List Expr → Expr} {es : List Expr}
    (mem : (separator, combine) ∈ combinations) (h : (combine es).Testable tags) :
    ∀ e ∈ es, e.Testable tags := by
  intro e here args called
  apply h
  rw [(parts_of_combination mem es).1]
  exact mem_exprsCalls.2 ⟨e, here, called⟩

theorem Testable.of_call {f : Builtin} {name : String} {args : List Operand} {p : Option Pattern}
    (h : (Expr.call f name args p).Testable tags) :
    (f = .hasTag → Compile.Testable tags (textAt args 0)) ∧
      ∀ e, .expr e ∈ args → e.Testable tags := by
  constructor
  · rintro rfl
    exact h args List.mem_cons_self
  · intro e here args' called
    exact h args' (List.mem_cons_of_mem _ (mem_operandsCalls.2 ⟨.expr e, here, called⟩))

/-- The text of an expression is flattened with one slot, and the flat text is read as the
expression. -/
structure Inverts (tags : Option TagStore) (e : Expr) : Prop where
  flattens : ∀ fuel d, 4 * Text.ink e.chars ≤ fuel + 1 → ∃ n d',
    Flattens tags fuel (e.front.map .plain ++ [e.piece]) (e.flat n) d d' ∧ d'.slots[n]? = some e.slot
  basic : ∀ fuel d n, 4 * Text.ink e.chars ≤ fuel → d.slots[n]? = some e.slot →
    ∃ d', Gives (Compile.basic tags fuel (e.flat n)) e.prepared d d'

variable {e : Expr}

/-- The text takes one slot, whatever stands after it. -/
theorem Inverts.flattened (inverts : e.Inverts tags) (formed : e.Formed Operand.Legible) :
    Flattened tags e.chars fun flat slots => ∃ n, flat = e.flat n ∧ slots[n]? = some e.slot := by
  refine ⟨e.front.map .plain ++ [e.piece], false, fun rest => ?_, fun fuel d enough => ?_⟩
  · rw [formed.piecesFrom_chars]
    simp [consPieces, consPiece]
  · obtain ⟨n, d', flattens, at'⟩ := inverts.flattens fuel d enough
    exact ⟨e.flat n, d', flattens, n, rfl, at'⟩

/-- A whole text that is inverted is compiled. -/
theorem Inverts.start (inverts : e.Inverts tags) (formed : e.Formed Operand.Legible) {fuel : Nat}
    (enough : 4 * Text.ink e.chars + 2 ≤ fuel) (d : Draft) :
    ∃ d', Gives (Compile.start tags fuel e.chars) e.prepared d d' := by
  refine (inverts.flattened formed).start formed.closed.inner.tight ⟨'(', formed.paren_mem, by decide⟩
    (fun fuel d flat enough holds => ?_) enough d
  obtain ⟨n, rfl, at'⟩ := holds
  exact inverts.basic fuel d n enough at'

/-- A condition that is inverted can be a part between separators. -/
theorem Inverts.reads (inverts : e.Inverts tags) (formed : e.Formed Operand.Legible)
    (kind : e.kind = .bool) {separator : List Char} {combine : List Expr → Expr}
    (mem : (separator, combine) ∈ combinations) :
    Reads tags (signs separator) e.chars e.prepared where
  kind := (kind_prepared e).trans kind
  composite := ⟨'(', formed.paren_mem, by decide⟩
  tight := formed.closed.inner.tight
  flattened := by
    refine (inverts.flattened formed).imp ?_
    rintro flat slots ⟨n, rfl, at'⟩
    obtain ⟨some, neutral⟩ := formed.flat_neutral n
    refine ⟨some, fun c inside => ?_, fun fuel d enough kept => ?_⟩
    · obtain ⟨quote, sign⟩ := not_mem_signs mem (neutral c inside).1
      exact ⟨quote, (neutral c inside).2, sign⟩
    · exact inverts.basic fuel d n enough (getElem?_mono kept at')

/-- A negation is inverted if its operand is compiled. -/
theorem inverts_not (kind : e.kind = .bool) (started : ∀ fuel d, 4 * Text.ink e.chars + 2 ≤ fuel →
    ∃ d', Gives (Compile.start tags fuel e.chars) e.prepared d d') : (Expr.not e).Inverts tags := by
  have long : Text.ink (Expr.not e).chars = Text.ink e.chars + 3 := by
    rw [Expr.chars, List.cons_append, Text.ink_cons, Text.ink_parenthesized]
    rfl
  have kind : e.prepared.kind = .bool := (kind_prepared e).trans kind
  constructor
  · intro fuel d enough
    obtain ⟨d₁, started⟩ := started fuel d (by omega)
    obtain ⟨n, d', group, at'⟩ := Flattens.group started
    exact ⟨n, d', (Flattens.plain ['!'] d).append group, at'⟩
  · intro fuel d n enough at'
    obtain ⟨fuel, rfl⟩ : ∃ k, fuel = k + 2 := ⟨fuel - 2, by omega⟩
    exact ⟨d, basic_not kind at'⟩

/-- A literal is compiled. -/
theorem start_literal (b : Bool) (fuel : Nat) (d : Draft) :
    Gives (Compile.start tags (fuel + 1) (literal (.bool b)).chars) (literal (.bool b)) d d := by
  cases b <;> exact ⟨rfl, List.prefix_refl _⟩

/-- The texts of expressions between separators. -/
theorem joined_chars (separator : List Char) {part : List Char → Expr → Prop} {es : List Expr}
    (some : es ≠ []) (each : ∀ e ∈ es, part e.chars e.prepared) :
    Joined separator part (joinWith separator (es.map (·.chars))) (es.map (·.prepared)) := by
  induction es with
  | nil => exact absurd rfl some
  | cons e es ih =>
    have first := each e List.mem_cons_self
    cases es with
    | nil => exact .one first
    | cons next es =>
      have rest := ih (List.cons_ne_nil _ _) fun e mem => each e (List.mem_cons_of_mem _ mem)
      exact .cons first ⟨[], [], rfl, rfl, by simp⟩ rest

/-- A combination is compiled from what stands between its parentheses. -/
theorem start_joinWith {separator : List Char} {combine : List Expr → Expr} {es : List Expr}
    (mem : (separator, combine) ∈ combinations) (several : 2 ≤ es.length)
    (formed : ∀ e ∈ es, e.Formed Operand.Legible) (kinds : ∀ e ∈ es, e.kind = .bool)
    (inverts : ∀ e ∈ es, e.Inverts tags) (fuel : Nat)
    (enough : 4 * Text.ink (joinWith separator (es.map (·.chars))) + 2 ≤ fuel) (d : Draft) :
    ∃ d', Gives (Compile.start tags fuel (joinWith separator (es.map (·.chars))))
      (combine es).prepared d d' := by
  have some : es ≠ [] := by
    rintro rfl
    simp at several
  have joined := joined_chars separator some fun e here =>
    (inverts e here).reads (formed e here) (kinds e here) mem
  have whole : combined combine (es.map (·.prepared)) = (combine es).prepared := by
    rw [prepared_combine mem]
    rcases es with _ | ⟨e, _ | ⟨e', es⟩⟩
    · exact absurd rfl some
    · simp at several
    · rfl
  have reads : Reads tags [] _ _ := Tier.reads mem (by simp) (fun _ _ h => h) ⟨_, joined, rfl⟩
  rw [whole] at reads
  exact reads.start enough d

/-- A combination of expressions that are inverted is inverted. -/
theorem inverts_combine {separator : List Char} {combine : List Expr → Expr} {es : List Expr}
    (mem : (separator, combine) ∈ combinations) (several : 2 ≤ es.length)
    (formed : ∀ e ∈ es, e.Formed Operand.Legible) (kinds : ∀ e ∈ es, e.kind = .bool)
    (inverts : ∀ e ∈ es, e.Inverts tags) : (combine es).Inverts tags := by
  obtain ⟨front, piece, slot, flat⟩ := front_combine mem es
  have long : Text.ink (combine es).chars =
      Text.ink (joinWith separator (es.map (·.chars))) + 2 := by
    rw [chars_combine mem, Text.ink_parenthesized]
  constructor
  · intro fuel d enough
    obtain ⟨d₁, started⟩ := start_joinWith mem several formed kinds inverts
      fuel (by omega) d
    rw [front, piece, slot, inside_combine mem]
    obtain ⟨n, d', group, at'⟩ := Flattens.group started
    exact ⟨n, d', by rwa [flat], at'⟩
  · intro fuel d n enough at'
    obtain ⟨fuel, rfl⟩ : ∃ k, fuel = k + 1 := ⟨fuel - 1, by omega⟩
    rw [slot] at at'
    rw [flat]
    exact ⟨d, basic_placeholder at'⟩

/-- The arguments of a call are read again if the expressions among them are inverted. -/
theorem arguments_inverted {f : Builtin} {name : String} {args : List Operand} {p : Option Pattern}
    (named : Builtin.ofName? name = some f) (legible : ∀ a ∈ args, a.Legible)
    (nested : ∀ e, .expr e ∈ args → e.Formed Operand.Legible)
    (inverts : ∀ e, .expr e ∈ args → e.Inverts tags) (fuel : Nat)
    (enough : 4 * Text.ink (Expr.call f name args p).chars ≤ fuel + 1) (d : Draft) :
    ∃ d', Gives (arguments tags fuel (joinWith [','] (operandsChars args)))
      (args.map (·.prepared)) d d' := by
  have long : Text.ink (Expr.call f name args p).chars =
      Text.ink name.toList + Text.ink (joinWith [','] (operandsChars args)) + 2 := by
    rw [Expr.chars, List.append_assoc, Text.ink_append, Text.ink_parenthesized]
    rfl
  obtain ⟨some, letters⟩ := Builtin.letters named
  have first := (Tight.of_solid fun c mem => (letters c mem).1.2.2.2.2).ink_pos some
  obtain ⟨fuel, rfl⟩ : ∃ k, fuel = k + 2 := ⟨fuel - 2, by omega⟩
  have read (a : Operand) (mem : a ∈ args) (d : Draft) :=
    argument_gives fuel (legible a mem) (fun e same => by
      subst same
      have shorter := Text.ink_le_of_infix
        (infix_joinWith [','] (List.mem_map_of_mem (f := (·.chars)) mem))
      rw [← operandsChars_eq, Operand.chars] at shorter
      exact ⟨nested e mem, (inverts e mem).start (nested e mem) (by omega)⟩) d
  have closed (a : Operand) (mem : a ∈ args) : Closed a.chars :=
    Formed.closed_operand (legible a mem) fun e same => by
      subst same
      exact (nested e mem).closed
  obtain ⟨d', given⟩ := arguments_gives (fuel + 1) (d := d)
    (args.map fun a => (a.chars, a.prepared)) (List.forall_mem_map.2 closed)
    (List.forall_mem_map.2 fun a mem => (read a mem d).1)
    (List.forall_mem_map.2 fun a mem d _ => (read a mem d).2)
  rw [List.map_map, List.map_map] at given
  rw [operandsChars_eq]
  exact ⟨d', given⟩

/-- A call is inverted if the expressions among its arguments are. -/
theorem inverts_call {f : Builtin} {name : String} {args : List Operand} {p : Option Pattern}
    (named : Builtin.ofName? name = some f) (fit : fits f.signature args = true)
    (numeric : notNumeric? f.signature args = none) (spelled : f.Spelled args)
    (testable : f = .hasTag → Compile.Testable tags (textAt args 0))
    (legible : ∀ a ∈ args, a.Legible)
    (nested : ∀ e, .expr e ∈ args → e.Formed Operand.Legible)
    (inverts : ∀ e, .expr e ∈ args → e.Inverts tags) : (Expr.call f name args p).Inverts tags := by
  obtain ⟨some, letters⟩ := Builtin.letters named
  constructor
  · intro fuel d enough
    obtain ⟨n, d', arguments, at'⟩ := Flattens.arguments (joinWith [','] (operandsChars args)) d
    have whole := (Flattens.plain name.toList d).append arguments
    rw [← List.append_assoc] at whole
    exact ⟨n, d', whole, at'⟩
  · intro fuel d n enough at'
    have first := Text.ink_pos
      (Formed.paren_mem (.call (p := p) named fit numeric spelled legible nested)) rfl
    obtain ⟨fuel, rfl⟩ : ∃ k, fuel = k + 1 := ⟨fuel - 1, by omega⟩
    obtain ⟨d₁, given⟩ := arguments_inverted named legible nested inverts fuel enough d
    obtain ⟨d', called⟩ := call_gives_prepared named fit numeric spelled testable d₁
    refine ⟨d', ?_⟩
    rw [Expr.prepared, operandsPrepared_eq]
    exact basic_call some letters at' given called

/-- Every expression that can be read again is inverted, where the tags that it tests may be tested.
-/
theorem Formed.inverts (h : e.Formed Operand.Legible) (testable : e.Testable tags) :
    e.Inverts tags := by
  induction h with
  | notLiteral b =>
    refine inverts_not rfl fun fuel d enough => ?_
    obtain ⟨fuel, rfl⟩ : ∃ k, fuel = k + 1 := ⟨fuel - 1, by omega⟩
    exact ⟨d, start_literal b fuel d⟩
  | not formed kind ih =>
    exact inverts_not kind fun fuel d enough => (ih testable).start formed enough d
  | combination mem several each kinds ih =>
    exact inverts_combine mem several each kinds fun e here => ih e here (testable.of_combine mem e here)
  | call named fit numeric spelled legible nested ih =>
    exact inverts_call named fit numeric spelled testable.of_call.1 legible nested
      fun e here => ih e here (testable.of_call.2 e here)

/-- The canonical text of a condition that can be read again is compiled to the condition, with a
store that has the tags it tests. -/
theorem Formed.compile_testable (h : e.Formed Operand.Legible) (kind : e.kind = .bool)
    (testable : e.Testable tags) : ∃ c, compile tags e.canonical = .ok c ∧ c.expr = e.prepared :=
  compile_of_start ⟨'(', h.paren_mem, by decide⟩ ((kind_prepared e).trans kind)
    fun _ enough => (h.inverts testable).start h enough {}

/-- So it is without a store. -/
theorem Formed.compile_canonical (h : e.Formed Operand.Legible) (kind : e.kind = .bool) :
    ∃ c, compile none e.canonical = .ok c ∧ c.expr = e.prepared :=
  h.compile_testable kind e.testable_none

/-- The canonical text of a literal is compiled to the literal. -/
theorem compile_canonical_literal (b : Bool) :
    ∃ c, compile none (literal (.bool b)).canonical = .ok c ∧ c.expr = literal (.bool b) := by
  refine ⟨compiledOf (literal (.bool b)) {}, compile_eq_ok.2 ?_, rfl⟩
  cases b <;> rfl

end Expr

end TagRules
