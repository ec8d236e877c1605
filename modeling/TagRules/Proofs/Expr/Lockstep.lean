import TagRules.Proofs.Expr.Run

/-!
# Two runs of compiling side by side

Compiling knows of tags only where `hasTag` names one, and nothing but the dependencies of a draft
is written there. All other steps are the same whatever store there is, and they are the same for
all dependencies (`Compile.Apart`). So a relation between two runs that holds of such steps, of a
test of a tag, and of one step after another, holds of compiling as a whole
(`Compile.Lockstep.steps`). The steps call each other, so the induction is on their common fuel.
-/

namespace TagRules

namespace Compile

variable {α β : Type}

/-- A step that neither reads nor writes the dependencies of a draft. -/
def Apart (m : Compile α) : Prop :=
  ∀ d deps, StateT.run m { d with dependsOn := deps } =
    (StateT.run m d).map fun (a, d') => (a, { d' with dependsOn := deps })

namespace Apart

theorem pure (a : α) : Apart (pure a : Compile α) :=
  fun _ _ => rfl

theorem reject (e : CompileError) : Apart (reject e : Compile α) :=
  fun _ _ => rfl

theorem exhausted : Apart (throw .exhausted : Compile α) :=
  fun _ _ => rfl

theorem fill (slot : Slot) : Apart (fill slot) :=
  fun _ _ => rfl

theorem slot? (key : List Char) : Apart (slot? key) :=
  fun _ _ => rfl

theorem condition (e : Expr) : Apart (condition e) := by
  unfold Compile.condition
  split
  · exact .pure e
  · exact .reject _

theorem literal (item : List Char) : Apart (literal item) := by
  unfold Compile.literal
  split
  · exact .reject _
  · split
    · exact .pure _
    · exact .reject _

theorem word (token : List Char) : Apart (word token) := by
  unfold Compile.word
  split
  · exact .pure _
  · split
    · exact .pure _
    · split
      · exact .pure _
      · exact fun _ _ => rfl

theorem pattern (source : String) : Apart (pattern source) := by
  unfold Compile.pattern
  split
  · exact .pure _
  · exact fun _ _ => rfl

theorem finish (f : Builtin) (name : String) (args : List Operand) (p : Option Pattern) :
    Apart (finish f name args p) := by
  unfold Compile.finish
  split
  · exact fun _ _ => rfl
  · exact .pure _

/-- Where such a step succeeds, it leaves the dependencies alone. -/
theorem dependsOn_eq {m : Compile α} (h : Apart m) {d d' : Draft} {a : α}
    (run : StateT.run m d = .ok (a, d')) : d'.dependsOn = d.dependsOn := by
  have same : StateT.run m d = _ := h d d.dependsOn
  rw [run] at same
  simp only [Except.map, Except.ok.injEq, Prod.mk.injEq, true_and] at same
  rw [same]

end Apart

/-- A relation between the steps of compiling with two stores that can be told from what is done
about dependencies. -/
structure Lockstep (tags tags' : Option TagStore) where
  Related {α : Type} : Compile α → Compile α → Prop
  apart {α : Type} {m : Compile α} : Apart m → Related m m
  bind {α β : Type} {m n : Compile α} {k l : α → Compile β} :
    Related m n → (∀ a, Related (k a) (l a)) → Related (m >>= k) (n >>= l)
  testTag (name : String) : Related (testTag tags name) (testTag tags' name)

namespace Lockstep

variable {tags tags' : Option TagStore} (lock : Lockstep tags tags')

theorem pure (a : α) : lock.Related (pure a : Compile α) (pure a) :=
  lock.apart (.pure a)

theorem reject (e : CompileError) : lock.Related (reject e : Compile α) (reject e) :=
  lock.apart (.reject e)

/-- A step for each element of a list. -/
theorem mapM {f g : β → Compile α} (l : List β) (each : ∀ b, lock.Related (f b) (g b)) :
    lock.Related (l.mapM f) (l.mapM g) := by
  induction l with
  | nil => exact lock.pure _
  | cons b l ih =>
    rw [List.mapM_cons, List.mapM_cons]
    exact lock.bind (each b) fun _ => lock.bind ih fun _ => lock.pure _

theorem settle (f : Builtin) (args : List Operand) :
    lock.Related (settle tags f args) (settle tags' f args) := by
  unfold Compile.settle
  split
  · exact lock.bind (lock.testTag _) fun _ => lock.pure _
  · split
    · exact lock.pure _
    · exact lock.reject _
  · exact lock.bind (lock.apart (.pattern _)) fun _ => lock.pure _
  · split
    · exact lock.pure _
    · exact lock.reject _
  · exact lock.pure _

theorem call (name : List Char) (args : List Operand) :
    lock.Related (call tags name args) (call tags' name args) := by
  cases named : Builtin.ofName? (String.ofList name) with
  | none =>
    simp only [Compile.call, named]
    exact lock.reject _
  | some f =>
    cases fit : fits f.signature args with
    | false =>
      simp only [Compile.call, named, fit, Bool.not_false, if_true]
      exact lock.reject _
    | true =>
      cases numeric : notNumeric? f.signature args with
      | some e =>
        simp only [Compile.call, named, fit, numeric, Bool.not_true, Bool.false_eq_true, if_false]
        exact lock.reject _
      | none =>
        rw [call_run named fit numeric, call_run named fit numeric]
        exact lock.bind (lock.settle f args) fun x => lock.apart (.finish f _ x.1 x.2)

/-- All steps with two amounts of fuel are related. -/
structure Steps (lock : Lockstep tags tags') (fuel fuel' : Nat) : Prop where
  start (text : List Char) : lock.Related (start tags fuel text) (start tags' fuel' text)
  flatten (pieces : List Piece) :
    lock.Related (flatten tags fuel pieces) (flatten tags' fuel' pieces)
  basic (text : List Char) : lock.Related (basic tags fuel text) (basic tags' fuel' text)
  arguments (raw : List Char) :
    lock.Related (arguments tags fuel raw) (arguments tags' fuel' raw)
  argument (item : List Char) :
    lock.Related (argument tags fuel item) (argument tags' fuel' item)

namespace Steps

variable {lock : Lockstep tags tags'} {fuel fuel' : Nat} (all : lock.Steps fuel fuel')
include all

theorem start_step (text : List Char) :
    lock.Related (Compile.start tags (fuel + 1) text) (Compile.start tags' (fuel' + 1) text) := by
  unfold Compile.start
  simp only []
  split
  · exact lock.reject _
  · split
    · exact lock.pure _
    · split
      · exact lock.pure _
      · refine lock.bind (all.flatten _) fun flat => ?_
        split
        · exact lock.reject _
        · exact lock.reject _
        · exact lock.reject _
        · exact all.basic flat

theorem flatten_step (pieces : List Piece) :
    lock.Related (Compile.flatten tags (fuel + 1) pieces)
      (Compile.flatten tags' (fuel' + 1) pieces) := by
  unfold Compile.flatten
  refine lock.bind (lock.mapM _ fun piece => ?_) fun _ => lock.pure _
  cases piece with
  | plain c => exact lock.pure _
  | arguments inner => exact lock.bind (lock.apart (.fill _)) fun _ => lock.pure _
  | group inner => exact lock.bind (all.start inner) fun e => lock.apart (.fill _)

theorem basic_step (text : List Char) :
    lock.Related (Compile.basic tags (fuel + 1) text) (Compile.basic tags' (fuel' + 1) text) := by
  have boolean (text : List Char) :
      lock.Related (do let e ← Compile.basic tags fuel text; condition e)
        (do let e ← Compile.basic tags' fuel' text; condition e) :=
    lock.bind (all.basic text) fun e => lock.apart (.condition e)
  unfold Compile.basic
  split
  · exact lock.reject _
  · split
    · split
      · split <;> exact lock.reject _
      · exact lock.bind (lock.mapM _ fun part => boolean _) fun _ => lock.pure _
    · split
      · exact lock.bind (all.arguments _) fun args => lock.call _ args
      · split
        · refine lock.bind (all.basic _) fun e => ?_
          exact lock.bind (lock.apart (.condition e)) fun _ => lock.pure _
        · refine lock.bind (lock.apart (.slot? _)) fun slot => ?_
          split
          · exact lock.pure _
          · exact lock.reject _
          · exact lock.reject _
        · split
          · exact lock.reject _
          · refine lock.bind (lock.apart (.slot? _)) fun slot => ?_
            split
            · exact lock.bind (all.arguments _) fun args => lock.call _ args
            · exact lock.reject _

theorem arguments_step (raw : List Char) :
    lock.Related (Compile.arguments tags (fuel + 1) raw)
      (Compile.arguments tags' (fuel' + 1) raw) := by
  unfold Compile.arguments
  simp only []
  split
  · exact lock.pure _
  · refine lock.mapM _ fun item => ?_
    split
    · exact lock.reject _
    · exact all.argument item

theorem argument_step (item : List Char) :
    lock.Related (Compile.argument tags (fuel + 1) item)
      (Compile.argument tags' (fuel' + 1) item) := by
  unfold Compile.argument
  split
  · exact lock.apart (.literal item)
  · split
    · refine lock.bind (lock.apart (.slot? _)) fun slot => ?_
      split
      · exact lock.pure _
      · refine lock.bind (all.arguments _) fun args => ?_
        split
        · exact lock.pure _
        · exact lock.reject _
      · exact lock.reject _
    · split
      · exact lock.bind (all.start item) fun e => lock.pure _
      · exact lock.apart (.word item)

/-- One more unit of fuel on either side. -/
theorem next : lock.Steps (fuel + 1) (fuel' + 1) :=
  ⟨all.start_step, all.flatten_step, all.basic_step, all.arguments_step, all.argument_step⟩

end Steps

/-- Every step is related, with any amount of fuel. -/
theorem steps (lock : Lockstep tags tags') (fuel : Nat) : lock.Steps fuel fuel := by
  induction fuel with
  | zero =>
    refine ⟨fun _ => ?_, fun _ => ?_, fun _ => ?_, fun _ => ?_, fun _ => ?_⟩ <;>
      exact lock.apart .exhausted
  | succ fuel ih => exact ih.next

end Lockstep

end Compile

end TagRules
