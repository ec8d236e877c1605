import TagRules.Proofs.Expr.Run
import TagRules.Proofs.Expr.Scan

/-!
# Invariants of compiling

A property of expressions and arguments that every step of compiling establishes holds of whatever
is compiled (`Compile.Invariant.start_yields`). The property may refer to what the draft has
gathered, as drafts only grow. The steps call each other, so the induction is on their common fuel;
the expressions in the slots of a draft have the property since they were compiled before.
-/

namespace TagRules

namespace Level

theorem le_refl (a : Level) : a ≤ a := Nat.le_refl a.rank

theorem le_trans {a b c : Level} (h : a ≤ b) (h' : b ≤ c) : a ≤ c :=
  Nat.le_trans (m := b.rank) h h'

theorem le_max_left (a b : Level) : a ≤ max a b := by
  change a ≤ if a ≤ b then b else a
  split
  · assumption
  · exact le_refl a

theorem le_max_right (a b : Level) : b ≤ max a b := by
  change b ≤ if a ≤ b then b else a
  split
  · exact le_refl b
  · next above => exact Nat.le_of_lt (Nat.lt_of_not_le above)

end Level

/-- A draft has at least what another one has. -/
structure Draft.Grows (d d' : Draft) : Prop where
  slots : d.slots <+: d'.slots
  level : d.level ≤ d'.level
  followsState : d.followsState = true → d'.followsState = true
  dependsOn : ∀ tag ∈ d.dependsOn, tag ∈ d'.dependsOn
  keywords : ∀ k ∈ d.keywords, k ∈ d'.keywords
  warnings : d.warnings <+: d'.warnings

namespace Draft.Grows

variable {d d' d'' : Draft}

theorem refl (d : Draft) : d.Grows d :=
  ⟨List.prefix_refl _, Level.le_refl _, id, fun _ h => h, fun _ h => h, List.prefix_refl _⟩

theorem trans (first : d.Grows d') (second : d'.Grows d'') : d.Grows d'' where
  slots := first.slots.trans second.slots
  level := Level.le_trans first.level second.level
  followsState h := second.followsState (first.followsState h)
  dependsOn tag h := second.dependsOn tag (first.dependsOn tag h)
  keywords k h := second.keywords k (first.keywords k h)
  warnings := first.warnings.trans second.warnings

end Draft.Grows

namespace Compile

theorem mem_noteTags {d : Draft} {ids : List TagId} {tag : TagId} :
    tag ∈ (noteTags d ids).dependsOn ↔ tag ∈ d.dependsOn ∨ tag ∈ ids := by
  obtain ⟨slots, level, followsState, dependsOn, keywords, warnings⟩ := d
  unfold noteTags
  simp only []
  induction ids generalizing dependsOn with
  | nil => simp
  | cons id ids ih =>
    rw [List.foldl_cons, ih]
    split
    · next old =>
      have old : id ∈ dependsOn := List.contains_iff_mem.1 old
      grind
    · simp [or_assoc]

theorem testTag_grows {tags : Option TagStore} {name : String} {d d' : Draft}
    (h : StateT.run (testTag tags name) d = .ok ((), d')) :
    d.Grows d' ∧ d'.slots = d.slots := by
  rw [testTag_eq_ok] at h
  cases tags with
  | none =>
    subst h
    exact ⟨.refl _, rfl⟩
  | some store =>
    obtain ⟨-, rfl⟩ := h
    refine ⟨{ Draft.Grows.refl d with dependsOn := fun tag mem => ?_ }, rfl⟩
    exact mem_noteTags.2 (.inl mem)

theorem Settled.grows {tags : Option TagStore} {d d' : Draft} {f : Builtin}
    {args args' : List Operand} {p : Option Pattern} (h : Settled tags d f args args' p d') :
    d.Grows d' ∧ d'.slots = d.slots := by
  cases h with
  | hasTag tested => exact testTag_grows tested
  | hasNet => exact ⟨.refl d, rfl⟩
  | matching => exact ⟨.refl d, rfl⟩
  | unmatched =>
    exact ⟨{ Draft.Grows.refl d with warnings := List.prefix_append _ _ }, rfl⟩
  | getConfig => exact ⟨.refl d, rfl⟩
  | plain => exact ⟨.refl d, rfl⟩

theorem noteFunction_grows (d : Draft) (f : Builtin) :
    d.Grows (noteFunction d f) ∧ (noteFunction d f).slots = d.slots := by
  unfold noteFunction
  split
  · exact ⟨{ Draft.Grows.refl d with followsState := fun _ => rfl }, rfl⟩
  · exact ⟨.refl d, rfl⟩

theorem Word.grows {d d' : Draft} {token : List Char} {a : Operand} (h : Word d token a d') :
    d.Grows d' ∧ d'.slots = d.slots := by
  cases h with
  | number => exact ⟨.refl d, rfl⟩
  | digits => exact ⟨.refl d, rfl⟩
  | bare => exact ⟨.refl d, rfl⟩
  | keyword =>
    refine ⟨{ Draft.Grows.refl d with
      level := Level.le_max_left _ _
      keywords := fun k mem => ?_ }, rfl⟩
    unfold noteKeyword
    simp only []
    split
    · exact mem
    · exact List.mem_append_left _ mem

/-- A word that can stand among arguments. -/
structure Bare (token : List Char) : Prop where
  nonempty : token ≠ []
  /-- Blanks outside of literals are dropped. -/
  quoted : Quoted token
  quote : (token.head?.map isQuote).getD false = false
  brace : token.head? ≠ some '{'
  paren : '(' ∉ token

/-- A property of expressions and arguments that every step of compiling establishes. -/
structure Invariant (tags : Option TagStore) where
  onExpr : Draft → Expr → Prop
  onOperand : Draft → Operand → Prop
  grow_expr {d d' e} : d.Grows d' → onExpr d e → onExpr d' e
  grow_operand {d d' a} : d.Grows d' → onOperand d a → onOperand d' a
  of_literal {d b} : onExpr d (.literal (.bool b))
  of_not {d e} : onExpr d e → e.kind = .bool → onExpr d (.not e)
  of_combination {d separator combine es} : (separator, combine) ∈ combinations →
    2 ≤ es.length → (∀ e ∈ es, onExpr d e ∧ e.kind = .bool) → onExpr d (combine es)
  of_text {d s} : onOperand d (.text s)
  of_word {d token a d'} : Bare token → Word d token a d' → onOperand d' a
  of_expr {d e} : onExpr d e → onOperand d (.expr e)
  of_call {d name f args args' p d'} : (∀ a ∈ args, onOperand d a) →
    Builtin.ofName? name = some f → fits f.signature args = true →
    notNumeric? f.signature args = none → Settled tags d f args args' p d' →
    onExpr (noteFunction d' f) (.call f name args' p)

namespace Invariant

variable {tags : Option TagStore} (inv : Invariant tags)

/-- The expressions in the slots of a draft have the property. -/
def Good (d : Draft) : Prop :=
  ∀ e, .expr e ∈ d.slots → inv.onExpr d e

/-- A step that, where it succeeds, leads from a good draft to a good one that has more. -/
def Yields (P : Draft → Prop) (m : Compile α) (Q : Draft → α → Prop) : Prop :=
  ∀ d a d', inv.Good d → P d → StateT.run m d = .ok (a, d') → d.Grows d' ∧ inv.Good d' ∧ Q d' a

variable {inv} {P P' : Draft → Prop} {α β : Type} {m : Compile α} {Q Q' : Draft → α → Prop}

/-- A step that adds no slots keeps a draft good. -/
theorem Good.grow {d d' : Draft} (h : inv.Good d) (grows : d.Grows d')
    (slots : d'.slots = d.slots) : inv.Good d' :=
  fun e mem => inv.grow_expr grows (h e (slots ▸ mem))

namespace Yields

theorem pure {a : α} (h : ∀ d, P d → Q d a) : inv.Yields P (pure a) Q := by
  intro d a' d' good pre run
  cases run
  exact ⟨.refl _, good, h d pre⟩

theorem reject (e : CompileError) : inv.Yields P (reject e) Q := by
  intro d a d' _ _ run
  cases run

theorem exhausted : inv.Yields P (throw .exhausted) Q := by
  intro d a d' _ _ run
  cases run

theorem bind {k : α → Compile β} {R : Draft → β → Prop} (first : inv.Yields P m Q)
    (second : ∀ a, inv.Yields (Q · a) (k a) R) : inv.Yields P (m >>= k) R := by
  intro d b d' good pre run
  obtain ⟨a, d₁, run₁, run₂⟩ := bind_eq_ok.1 run
  obtain ⟨grows, good, post⟩ := first d a d₁ good pre run₁
  obtain ⟨grows', good', post'⟩ := second a d₁ b d' good post run₂
  exact ⟨grows.trans grows', good', post'⟩

theorem imp (h : inv.Yields P m Q) (pre : ∀ d, P' d → P d) (post : ∀ d a, Q d a → Q' d a) :
    inv.Yields P' m Q' := by
  intro d a d' good p run
  obtain ⟨grows, good', q⟩ := h d a d' good (pre d p) run
  exact ⟨grows, good', post d' a q⟩

/-- A step for each element of a list. What holds of an earlier result still holds at the end. -/
theorem mapM {l : List β} {f : β → Compile α} (grow : ∀ d d' a, d.Grows d' → Q d a → Q d' a)
    (each : ∀ b ∈ l, inv.Yields (fun _ => True) (f b) Q) :
    inv.Yields P (l.mapM f) fun d as => as.length = l.length ∧ ∀ a ∈ as, Q d a := by
  induction l generalizing P with
  | nil => exact .pure fun d _ => ⟨rfl, fun _ h => absurd h List.not_mem_nil⟩
  | cons b l ih =>
    rw [List.mapM_cons]
    refine .bind ((each b List.mem_cons_self).imp (fun _ _ => trivial) fun _ _ h => h) fun a => ?_
    intro d as d' good post run
    obtain ⟨rest, d₁, run₁, done⟩ := bind_eq_ok.1 run
    cases done
    obtain ⟨grows, good', length, others⟩ :=
      ih (P := fun _ => True) (fun b h => each b (List.mem_cons_of_mem _ h)) d rest d' good trivial run₁
    refine ⟨grows, good', by simp [length], fun a' mem => ?_⟩
    rcases List.mem_cons.1 mem with rfl | mem
    · exact grow d d' _ grows post
    · exact others a' mem

end Yields

/-- The kinds of steps with one amount of fuel. -/
structure Steps (inv : Invariant tags) (fuel : Nat) : Prop where
  start (text : List Char) : inv.Yields (fun _ => True) (start tags fuel text) inv.onExpr
  flatten (pieces : List Piece) :
    inv.Yields (fun _ => True) (flatten tags fuel pieces) fun _ _ => True
  basic (text : List Char) : inv.Yields (fun _ => True) (basic tags fuel text) inv.onExpr
  arguments (raw : List Char) : inv.Yields (fun _ => True) (arguments tags fuel raw)
    fun d args => ∀ a ∈ args, inv.onOperand d a
  argument (item : List Char) (nonempty : item ≠ []) (quoted : Quoted item) :
    inv.Yields (fun _ => True) (argument tags fuel item) inv.onOperand

variable {fuel : Nat}

theorem condition_yields (e : Expr) (Q : Draft → Prop) (h : ∀ d, Q d → inv.onExpr d e) :
    inv.Yields Q (condition e) fun d e => inv.onExpr d e ∧ e.kind = .bool := by
  intro d e' d' good pre run
  obtain ⟨kind, rfl, rfl⟩ := condition_eq_ok.1 run
  exact ⟨.refl _, good, h _ pre, kind⟩

theorem fill_yields (slot : Slot) :
    inv.Yields (fun d => ∀ e, slot = .expr e → inv.onExpr d e) (fill slot) fun _ _ => True := by
  intro d key d' good pre run
  rw [fill_run] at run
  cases run
  have grows : d.Grows { d with slots := d.slots ++ [slot] } :=
    { Draft.Grows.refl d with slots := List.prefix_append _ _ }
  refine ⟨grows, fun e mem => inv.grow_expr grows ?_, trivial⟩
  rcases List.mem_append.1 mem with mem | mem
  · exact good e mem
  · exact pre e (List.mem_singleton.1 mem).symm

theorem slot?_yields (key : List Char) : inv.Yields P (slot? key) fun d slot =>
    ∀ e, slot = some (.expr e) → inv.onExpr d e := by
  intro d slot d' good _ run
  rw [slot?_run] at run
  cases run
  refine ⟨.refl _, good, fun e found => ?_⟩
  obtain ⟨n, -, at'⟩ := Option.bind_eq_some_iff.1 found
  exact good e (List.mem_of_getElem? at')

theorem call_yields (name : List Char) (args : List Operand) :
    inv.Yields (fun d => ∀ a ∈ args, inv.onOperand d a) (call tags name args) inv.onExpr := by
  intro d e d' good pre run
  obtain ⟨f, args', p, d₁, named, fit, numeric, settled, rfl, rfl⟩ := call_eq_ok.1 run
  obtain ⟨grows, slots⟩ := settled.grows
  obtain ⟨grows', slots'⟩ := noteFunction_grows d₁ f
  refine ⟨grows.trans grows', good.grow (grows.trans grows') (slots'.trans slots), ?_⟩
  exact inv.of_call pre named fit numeric settled

theorem word_yields {token : List Char} (bare : Bare token) :
    inv.Yields P (word token) inv.onOperand := by
  intro d a d' good pre run
  obtain ⟨a', d₁, run', stands⟩ := word_run token d
  rw [run'] at run
  cases run
  obtain ⟨grows, slots⟩ := stands.grows
  exact ⟨grows, good.grow grows slots, inv.of_word bare stands⟩

theorem literal_yields (item : List Char) : inv.Yields P (literal item) inv.onOperand := by
  intro d a d' good pre run
  obtain ⟨-, -, rfl, rfl⟩ := literal_eq_ok.1 run
  exact ⟨.refl _, good, inv.of_text⟩

theorem start_step (steps : inv.Steps fuel) (text : List Char) :
    inv.Yields (fun _ => True) (Compile.start tags (fuel + 1) text) inv.onExpr := by
  unfold Compile.start
  simp only []
  split
  · exact .reject _
  · split
    · exact .pure fun _ _ => inv.of_literal
    · split
      · exact .pure fun _ _ => inv.of_literal
      · refine .bind (steps.flatten _) fun flat => ?_
        split
        · exact .reject _
        · exact .reject _
        · exact .reject _
        · exact steps.basic flat

theorem flatten_step (steps : inv.Steps fuel) (pieces : List Piece) :
    inv.Yields (fun _ => True) (Compile.flatten tags (fuel + 1) pieces) fun _ _ => True := by
  unfold Compile.flatten
  refine .bind (.mapM (Q := fun _ _ => True) (fun _ _ _ _ _ => trivial) fun piece _ => ?_)
    fun _ => .pure fun _ _ => trivial
  cases piece with
  | plain c => exact .pure fun _ _ => trivial
  | arguments inner =>
    refine .bind ((fill_yields _).imp (fun _ _ _ => (nomatch ·)) fun _ _ h => h) fun _ => ?_
    exact .pure fun _ _ => trivial
  | group inner =>
    refine .bind (steps.start inner) fun e => ?_
    exact (fill_yields _).imp (fun _ h _ same => Slot.expr.inj same ▸ h) fun _ _ h => h

theorem combine_yields {separator : List Char} {combine : List Expr → Expr}
    (mem : (separator, combine) ∈ combinations) {n : Nat} (enough : 2 ≤ n) (es : List Expr) :
    inv.Yields (fun d => es.length = n ∧ ∀ e ∈ es, inv.onExpr d e ∧ e.kind = .bool)
      (Pure.pure (combine es)) inv.onExpr := by
  exact .pure fun d ⟨length, each⟩ => inv.of_combination mem (length ▸ enough) each

theorem basic_step (steps : inv.Steps fuel) (text : List Char) :
    inv.Yields (fun _ => True) (Compile.basic tags (fuel + 1) text) inv.onExpr := by
  have boolean (text : List Char) : inv.Yields (fun _ => True)
      (do let e ← Compile.basic tags fuel text; condition e)
      fun d e => inv.onExpr d e ∧ e.kind = .bool :=
    .bind (steps.basic text) fun e => condition_yields e _ fun _ h => h
  unfold Compile.basic
  split
  · exact .reject _
  · split
    · next separator combine parts found =>
      obtain ⟨mem, -, enough⟩ := combination?_eq_some found
      split
      · split <;> exact .reject _
      · exact .bind (.mapM (fun _ _ _ grows h => ⟨inv.grow_expr grows h.1, h.2⟩)
          fun part _ => boolean _) (combine_yields mem enough)
    · split
      · exact .bind (steps.arguments _) fun args => call_yields _ args
      · split
        · refine .bind (steps.basic _) fun e => ?_
          refine .bind (condition_yields e _ fun _ h => h) fun e' => ?_
          exact .pure fun _ h => inv.of_not h.1 h.2
        · refine .bind (slot?_yields _) fun slot => ?_
          split
          · next e => exact .pure fun _ h => h e rfl
          · exact .reject _
          · exact .reject _
        · split
          · exact .reject _
          · refine .bind (slot?_yields _) fun slot => ?_
            split
            · refine .bind ((steps.arguments _).imp (fun _ _ => trivial) fun _ _ h => h) ?_
              exact fun args => call_yields _ args
            · exact .reject _

theorem arguments_step (steps : inv.Steps fuel) (raw : List Char) :
    inv.Yields (fun _ => True) (Compile.arguments tags (fuel + 1) raw)
      fun d args => ∀ a ∈ args, inv.onOperand d a := by
  unfold Compile.arguments
  simp only []
  split
  · exact .pure fun _ _ _ h => absurd h List.not_mem_nil
  · refine (Yields.mapM (Q := inv.onOperand) (fun _ _ _ grows h => inv.grow_operand grows h)
      fun item mem => ?_).imp (fun _ h => h) fun _ _ h => h.2
    split
    · exact .reject _
    · next nonempty =>
      exact steps.argument item (fun h => nonempty (h ▸ rfl)) (quoted_of_mem_argumentsOf mem)

theorem argument_step (steps : inv.Steps fuel) (item : List Char) (nonempty : item ≠ [])
    (quoted : Quoted item) :
    inv.Yields (fun _ => True) (Compile.argument tags (fuel + 1) item) inv.onOperand := by
  unfold Compile.argument
  split
  · exact literal_yields item
  · next quote =>
    split
    · refine .bind (slot?_yields _) fun slot => ?_
      split
      · next e => exact .pure fun _ h => inv.of_expr (h e rfl)
      · refine .bind ((steps.arguments _).imp (fun _ _ => trivial) fun _ _ h => h) fun args => ?_
        split
        · next value => exact .pure fun _ h => h value List.mem_cons_self
        · exact .reject _
      · exact .reject _
    · next brace =>
      split
      · exact .bind (steps.start item) fun e => .pure fun _ h => inv.of_expr h
      · next paren =>
        refine word_yields ⟨nonempty, quoted, ?_, brace, fun mem => paren (List.contains_iff_mem.2 mem)⟩
        simpa using quote

/-- Every step establishes the invariant, with any amount of fuel. -/
theorem steps (inv : Invariant tags) (fuel : Nat) : inv.Steps fuel := by
  induction fuel with
  | zero =>
    refine ⟨fun _ => ?_, fun _ => ?_, fun _ => ?_, fun _ => ?_, fun _ _ _ => ?_⟩ <;> exact .exhausted
  | succ fuel ih =>
    exact ⟨start_step ih, flatten_step ih, basic_step ih, arguments_step ih, argument_step ih⟩

/-- What is compiled has the property, in the draft that compiling ends with. -/
theorem of_compile (inv : Invariant tags) {text : String} {c : Compiled}
    (h : compile tags text = .ok c) :
    ∃ d, c = compiledOf c.expr d ∧ inv.onExpr d c.expr ∧ c.expr.kind = .bool := by
  obtain ⟨-, e, d, started, kind, rfl⟩ := run_eq_ok.1 (compile_eq_ok.1 h)
  have empty : inv.Good {} := fun _ mem => absurd mem List.not_mem_nil
  obtain ⟨-, -, holds⟩ := (inv.steps _).start text.toList {} e d empty trivial started
  exact ⟨d, rfl, holds, kind⟩

end Invariant

end Compile

end TagRules
