import TagRules.Proofs.Expr.Run

/-!
# Steps apart from the slots

Conditions, literals, words, tests of tags, patterns and calls are made of steps that neither read
nor write the slots of a draft (`Local`): from drafts that differ in nothing else they do the same
(`Local.run_eq`).
-/

namespace TagRules

namespace Compile

variable {α β : Type}

/-- A step made of refusals and of notes that have nothing to do with the slots of a draft. -/
inductive Local : {α : Type} → Compile α → Prop
  | pure {α : Type} (a : α) : Local (pure a : Compile α)
  | reject {α : Type} (e : CompileError) : Local (reject e : Compile α)
  | note {f : Draft → Draft} (aside : ∀ d slots, f { d with slots } = { f d with slots }) :
    Local (modify f : Compile PUnit)
  | bind {α β : Type} {m : Compile α} {k : α → Compile β} (first : Local m)
    (second : ∀ a, Local (k a)) : Local (m >>= k)

namespace Local

/-- With other slots, the same is done with the other slots. -/
theorem run_eq {m : Compile α} (h : Local m) (d : Draft) (slots : List Slot) :
    StateT.run m { d with slots } = (StateT.run m d).map fun (a, d') => (a, { d' with slots }) := by
  induction h generalizing d with
  | pure => rfl
  | reject => rfl
  | note aside => exact congrArg (fun d' => Except.ok (PUnit.unit, d')) (aside d slots)
  | @bind _ _ m k _ _ ih ih' =>
    have run' := ih d
    cases run : StateT.run m d with
    | error failure =>
      rw [run] at run'
      rw [bind_run_of_error run, bind_run_of_error run']
      rfl
    | ok result =>
      obtain ⟨a, d₁⟩ := result
      rw [run] at run'
      rw [bind_run_of_ok run, bind_run_of_ok run']
      exact ih' a d₁

theorem slots_eq {m : Compile α} (h : Local m) {d d' : Draft} {a : α}
    (run : StateT.run m d = .ok (a, d')) : d'.slots = d.slots := by
  have same : StateT.run m d = _ := h.run_eq d d.slots
  rw [run] at same
  have slots := congrArg Draft.slots (Prod.mk.inj (Except.ok.inj same)).2
  exact slots

/-- A step for each element of a list. -/
theorem mapM {f : β → Compile α} (each : ∀ b, Local (f b)) (l : List β) : Local (l.mapM f) := by
  induction l with
  | nil => exact .pure _
  | cons b l ih =>
    rw [List.mapM_cons]
    exact .bind (each b) fun _ => .bind ih fun _ => .pure _

theorem condition (e : Expr) : Local (condition e) := by
  unfold Compile.condition
  split
  · exact .pure e
  · exact .reject _

theorem literal (item : List Char) : Local (literal item) := by
  unfold Compile.literal
  split
  · exact .reject _
  · split
    · exact .pure _
    · exact .reject _

theorem word (token : List Char) : Local (word token) := by
  unfold Compile.word
  split
  · exact .pure _
  · split
    · exact .pure _
    · split
      · exact .pure _
      · exact .bind (.note fun _ _ => rfl) fun _ => .pure _

theorem testTag (tags : Option TagStore) (name : String) : Local (testTag tags name) := by
  unfold Compile.testTag
  split
  · exact .pure _
  · simp only []
    split
    · exact .bind (.reject _) fun _ => .note fun _ _ => rfl
    · exact .note fun _ _ => rfl

theorem pattern (source : String) : Local (pattern source) := by
  unfold Compile.pattern
  split
  · exact .pure _
  · exact .bind (.note fun _ _ => rfl) fun _ => .pure _

theorem settle (tags : Option TagStore) (f : Builtin) (args : List Operand) :
    Local (settle tags f args) := by
  unfold Compile.settle
  split
  · exact (testTag ..).bind fun _ => .pure _
  · split
    · exact .pure _
    · exact .reject _
  · exact (pattern _).bind fun _ => .pure _
  · split
    · exact .pure _
    · exact .reject _
  · exact .pure _

theorem finish (f : Builtin) (name : String) (args : List Operand) (p : Option Pattern) :
    Local (finish f name args p) := by
  unfold Compile.finish
  split
  · exact .bind (.note fun _ _ => rfl) fun _ => .pure _
  · exact .pure _

theorem call (tags : Option TagStore) (name : List Char) (args : List Operand) :
    Local (call tags name args) := by
  cases named : Builtin.ofName? (String.ofList name) with
  | none =>
    simp only [Compile.call, named]
    exact .reject _
  | some f =>
    cases fit : fits f.signature args with
    | false =>
      simp only [Compile.call, named, fit, Bool.not_false, if_true]
      exact .reject _
    | true =>
      cases numeric : notNumeric? f.signature args with
      | some e =>
        simp only [Compile.call, named, fit, numeric, Bool.not_true, Bool.false_eq_true, if_false]
        exact .reject _
      | none =>
        rw [call_run named fit numeric]
        exact (settle tags f args).bind fun x => finish f _ x.1 x.2

end Local

end Compile

end TagRules
