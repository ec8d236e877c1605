import TagRules.Proofs.Expr.Inverse

/-!
# What the compiler builds

`Expr.Shaped` are the trees that compiling yields: every call has the arguments that its function
takes, names and keys are spelled properly, and the pattern of a call is the one that its text
stands for. Literals may stand anywhere, and texts and words may hold anything that an item among
arguments can hold.
-/

namespace TagRules

/-- An argument that the compiler has read. -/
def Operand.Read : Operand → Prop
  | .text _ => True
  | .number n => ∃ token, Compile.number? token = some n
  | .keyword _ => True
  | .bare word =>
    Compile.Bare word.toList ∧ ∀ d, ∃ d', Compile.Word d word.toList (.bare word) d'
  | .expr _ => True

/-- A tree that the compiler has built. -/
inductive Expr.Shaped : Expr → Prop
  | literal (b : Bool) : Shaped (.literal (.bool b))
  | not {e} (inner : Shaped e) (kind : e.kind = .bool) : Shaped (.not e)
  | combination {separator combine es} (mem : (separator, combine) ∈ Compile.combinations)
    (several : 2 ≤ es.length) (each : ∀ e ∈ es, Shaped e) (kinds : ∀ e ∈ es, e.kind = .bool) :
    Shaped (combine es)
  | call {f name args} (named : Builtin.ofName? name = some f)
    (fit : Compile.fits f.signature args = true)
    (numeric : Compile.notNumeric? f.signature args = none) (spelled : f.Spelled args)
    (leaves : ∀ a ∈ args, a.Read) (nested : ∀ e, .expr e ∈ args → Shaped e) :
    Shaped (.call f name args (f.pattern? args))

namespace Compile

/-- An argument that the compiler has read, with the expression in it. -/
def Given (a : Operand) : Prop :=
  a.Read ∧ ∀ e, .expr e = a → e.Shaped

theorem given_of_word {token : List Char} {a : Operand} {d d' : Draft} (bare : Bare token)
    (stands : Word d token a d') : Given a := by
  cases stands with
  | number reads => exact ⟨⟨token, reads⟩, fun _ same => by cases same⟩
  | digits number digit =>
    refine ⟨⟨by rwa [String.toList_ofList], fun d => ⟨d, ?_⟩⟩, fun _ same => by cases same⟩
    rw [String.toList_ofList]
    exact .digits number digit
  | bare number digit keyword =>
    refine ⟨⟨by rwa [String.toList_ofList], fun d => ⟨d, ?_⟩⟩, fun _ same => by cases same⟩
    rw [String.toList_ofList]
    exact .bare number digit keyword
  | keyword => exact ⟨trivial, fun _ same => by cases same⟩

/-- Settling arguments keeps their shape, spells names and keys, and finds the pattern. -/
theorem Settled.shapes {tags : Option TagStore} {d d' : Draft} {f : Builtin}
    {args args' : List Operand} {p : Option Pattern} (h : Settled tags d f args args' p d')
    (given : ∀ a ∈ args, Given a) (fit : fits f.signature args = true)
    (numeric : notNumeric? f.signature args = none) :
    (∀ a ∈ args', Given a) ∧ fits f.signature args' = true ∧
      notNumeric? f.signature args' = none ∧ f.Spelled args' ∧ p = f.pattern? args' := by
  have text (s : String) : ∀ a ∈ [Operand.text s], Given a :=
    List.forall_mem_singleton.2 ⟨trivial, fun _ same => by cases same⟩
  cases h with
  | hasTag => exact ⟨given, fit, numeric, trivial, rfl⟩
  | @hasNet name net known =>
    have spelled : ∀ net ∈ networks, network? net = some net := by decide +kernel
    exact ⟨text net, rfl, rfl, spelled net (List.mem_of_find?_eq_some known), rfl⟩
  | matching reads => exact ⟨given, fit, numeric, trivial, by rw [Builtin.pattern?, reads]; rfl⟩
  | unmatched refused => exact ⟨given, fit, numeric, trivial, by rw [Builtin.pattern?, refused]; rfl⟩
  | @getConfig key setting known =>
    have spelled : ∀ setting ∈ Setting.all,
        (Setting.ofKey? setting.key).map (·.key) = some setting.key := by decide +kernel
    exact ⟨text setting.key, rfl, rfl, spelled setting (List.mem_of_find?_eq_some known), rfl⟩
  | plain other =>
    refine ⟨given, fit, numeric, ?_, ?_⟩
    · unfold Builtin.Spelled
      split
      · simp at other
      · simp at other
      · trivial
    · unfold Builtin.pattern?
      split
      · simp at other
      · rfl

/-- Every step of compiling builds trees of the proper shape. -/
def shape (tags : Option TagStore) : Invariant tags where
  onExpr _ e := e.Shaped
  onOperand _ a := Given a
  grow_expr _ h := h
  grow_operand _ h := h
  of_literal := .literal _
  of_not h kind := .not h kind
  of_combination mem several each :=
    .combination mem several (fun e inside => (each e inside).1) fun e inside => (each e inside).2
  of_text := ⟨trivial, fun _ same => by cases same⟩
  of_word bare stands := given_of_word bare stands
  of_expr h := ⟨trivial, fun e same => by cases same; exact h⟩
  of_call each named fit numeric settled := by
    obtain ⟨given, fit, numeric, spelled, rfl⟩ := settled.shapes each fit numeric
    exact .call named fit numeric spelled (fun a mem => (given a mem).1)
      fun e mem => (given _ mem).2 e rfl

/-- What is compiled is a condition of the proper shape. -/
theorem shaped_of_compile {tags : Option TagStore} {text : String} {c : Compiled}
    (h : compile tags text = .ok c) : c.expr.Shaped ∧ c.expr.kind = .bool := by
  obtain ⟨_, -, shaped, kind⟩ := (shape tags).of_compile h
  exact ⟨shaped, kind⟩

end Compile

/-- The calls in what the compiler builds have their patterns. -/
theorem Expr.Shaped.prepared_eq {e : Expr} (h : e.Shaped) : e.prepared = e := by
  induction h with
  | literal => rfl
  | not _ _ ih => rw [Expr.prepared, ih]
  | combination mem _ _ _ ih =>
    rw [prepared_combine mem]
    congr 1
    exact (List.map_congr_left ih).trans (List.map_id _)
  | call named fit numeric spelled leaves nested ih =>
    rename_i f name args
    have same : operandsPrepared args = args := by
      rw [operandsPrepared_eq]
      refine (List.map_congr_left fun a mem => ?_).trans (List.map_id _)
      cases a with
      | expr e => rw [Operand.prepared, ih e mem]; rfl
      | _ => rfl
    rw [Expr.prepared, same]

/-- A literal alone, or a tree whose literals stand below negations only and whose arguments can be
cut out whole and read again. -/
def Expr.Stable (e : Expr) : Prop :=
  (∃ b, e = .literal (.bool b)) ∨ e.Formed Operand.Legible

/-- The canonical text of a stable tree that was compiled is compiled to the same tree. -/
theorem Expr.Stable.compile_canonical {e : Expr} (stable : e.Stable) (shaped : e.Shaped)
    (kind : e.kind = .bool) : ∃ c, compile none e.canonical = .ok c ∧ c.expr = e := by
  rcases stable with ⟨b, rfl⟩ | formed
  · exact compile_canonical_literal b
  · obtain ⟨c, compiled, same⟩ := formed.compile_canonical kind
    exact ⟨c, compiled, same.trans shaped.prepared_eq⟩

end TagRules
