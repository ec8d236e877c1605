import TagRules.Expr.Compiler

/-!
# Steps of compiling as runs

What each step of compiling yields, and from which drafts to which: equations for the steps that
always succeed, and for the others the exact conditions of success.
-/

namespace TagRules

namespace Compile

variable {α β : Type} {d d' : Draft}

/-- A result of which something is known of the value has one. -/
theorem ok_of_map {result : Except ε α} {g : α → β} {b : β}
    (h : result.toOption.map g = some b) : ∃ a, result = .ok a ∧ g a = b := by
  cases result with
  | error e => cases h
  | ok a => exact ⟨a, rfl, Option.some.inj h⟩

/-- An error that a result keeps under a change of its value is its own. -/
theorem error_of_map {result : Except ε α} {g : α → β} {e : ε} (h : result.map g = .error e) :
    result = .error e := by
  cases result with
  | error e' => exact congrArg Except.error (Except.error.inj h)
  | ok value => cases h

@[simp] theorem pure_run (a : α) (d : Draft) : StateT.run (pure a : Compile α) d = .ok (a, d) := rfl

@[simp] theorem reject_run (e : CompileError) (d : Draft) :
    StateT.run (reject e : Compile α) d = .error (.rejected e) := rfl

@[simp] theorem throw_run (failure : Failure) (d : Draft) :
    StateT.run (throw failure : Compile α) d = .error failure := rfl

/-- Two steps succeed if both do, one after the other. -/
theorem bind_eq_ok {m : Compile α} {k : α → Compile β} {b : β} :
    StateT.run (m >>= k) d = .ok (b, d') ↔
      ∃ a d₁, StateT.run m d = .ok (a, d₁) ∧ StateT.run (k a) d₁ = .ok (b, d') := by
  rw [StateT.run_bind]
  constructor
  · intro h
    cases hm : StateT.run m d with
    | error failure =>
      rw [hm] at h
      cases h
    | ok result =>
      rw [hm] at h
      exact ⟨result.1, result.2, rfl, h⟩
  · rintro ⟨a, d₁, first, second⟩
    rw [first]
    exact second

theorem bind_run_of_ok {m : Compile α} {k : α → Compile β} {a : α} {d₁ : Draft}
    (h : StateT.run m d = .ok (a, d₁)) : StateT.run (m >>= k) d = StateT.run (k a) d₁ := by
  rw [StateT.run_bind, h]
  rfl

theorem bind_run_of_error {m : Compile α} {k : α → Compile β} {failure : Failure}
    (h : StateT.run m d = .error failure) : StateT.run (m >>= k) d = .error failure := by
  rw [StateT.run_bind, h]
  rfl

/-- The placeholder of a slot. -/
def placeholder (n : Nat) : List Char :=
  '{' :: Digits.ofNat n ++ ['\x7d']

theorem fill_run (slot : Slot) (d : Draft) :
    StateT.run (fill slot) d = .ok (placeholder d.slots.length, { d with slots := d.slots ++ [slot] }) :=
  rfl

theorem slot?_run (key : List Char) (d : Draft) :
    StateT.run (slot? key) d = .ok ((placeholder? key).bind (d.slots[·]?), d) :=
  rfl

theorem condition_eq_ok {e e' : Expr} :
    StateT.run (condition e) d = .ok (e', d') ↔ e.kind = .bool ∧ e' = e ∧ d' = d := by
  unfold condition
  split
  · next kind =>
    rw [pure_run, Except.ok.injEq, Prod.mk.injEq]
    exact ⟨fun ⟨he, hd⟩ => ⟨kind, he.symm, hd.symm⟩, fun ⟨_, he, hd⟩ => ⟨he.symm, hd.symm⟩⟩
  · next kind => simp [kind]

/-- The draft after a keyword. -/
def noteKeyword (d : Draft) (k : Keyword) : Draft :=
  { d with
    level := max d.level k.level
    keywords := if d.keywords.contains k then d.keywords else d.keywords ++ [k] }

/-- What a word without quotes stands for, in which draft. -/
inductive Word (d : Draft) (token : List Char) : Operand → Draft → Prop
  | number {n} (reads : number? token = some n) : Word d token (.number n) d
  | digits (number : number? token = none)
    (digit : (token.head?.map Digits.isDigit).getD false = true) :
    Word d token (.bare (String.ofList token)) d
  | bare (number : number? token = none)
    (digit : (token.head?.map Digits.isDigit).getD false = false)
    (keyword : Keyword.ofWord? token = none) : Word d token (.bare (String.ofList token)) d
  | keyword {k} (number : number? token = none)
    (digit : (token.head?.map Digits.isDigit).getD false = false)
    (keyword : Keyword.ofWord? token = some k) : Word d token (.keyword k) (noteKeyword d k)

/-- A word always stands for something. -/
theorem word_run (token : List Char) (d : Draft) :
    ∃ a d', StateT.run (word token) d = .ok (a, d') ∧ Word d token a d' := by
  unfold word
  cases number : number? token with
  | some n => exact ⟨_, _, rfl, .number number⟩
  | none =>
    simp only []
    cases digit : (token.head?.map Digits.isDigit).getD false with
    | true => exact ⟨_, _, rfl, .digits number digit⟩
    | false =>
      simp only [Bool.false_eq_true, if_false]
      cases keyword : Keyword.ofWord? token with
      | none => exact ⟨_, _, rfl, .bare number digit keyword⟩
      | some k => exact ⟨_, _, rfl, .keyword number digit keyword⟩

theorem literal_eq_ok {item : List Char} {a : Operand} :
    StateT.run (literal item) d = .ok (a, d') ↔
      item.drop 1 ≠ [] ∧ ((item.drop 1).getLast?.map isQuote).getD false = true ∧
        a = .text (String.ofList (item.drop 1).dropLast) ∧ d' = d := by
  unfold literal
  split
  · next none => simp [none]
  · next inner some =>
    split
    · next closed =>
      simp only [pure_run, Except.ok.injEq, Prod.mk.injEq, closed, true_and]
      exact ⟨fun ⟨ha, hd⟩ => ⟨some, ha.symm, hd.symm⟩, fun ⟨_, ha, hd⟩ => ⟨ha.symm, hd.symm⟩⟩
    · next closed => simp only [reject_run, closed, reduceCtorEq, false_and, and_false]

/-- How the arguments of a call are settled once their shape is known, with the pattern among them,
and in which drafts. -/
inductive Settled (tags : Option TagStore) (d : Draft) :
    Builtin → List Operand → List Operand → Option Pattern → Draft → Prop
  | hasTag {tag d'} (tested : StateT.run (testTag tags tag) d = .ok ((), d')) :
    Settled tags d .hasTag [.text tag] [.text tag] none d'
  | hasNet {name net} (known : network? name = some net) :
    Settled tags d .hasNet [.text name] [.text net] none d
  | matching {a source p} (reads : Pattern.read source = .ok p) :
    Settled tags d .matching [a, .text source] [a, .text source] (some p) d
  | unmatched {a source r} (refused : Pattern.read source = .error r) :
    Settled tags d .matching [a, .text source] [a, .text source] none
      { d with warnings := d.warnings ++ [invalidPattern source r] }
  | getConfig {key setting} (known : Setting.ofKey? key = some setting) :
    Settled tags d .getConfig [.text key] [.text setting.key] none d
  | plain {f args} (other : f ∉ [.hasTag, .hasNet, .matching, .getConfig]) :
    Settled tags d f args args none d

/-- Settle the arguments of a call. -/
def settle (tags : Option TagStore) (f : Builtin) (args : List Operand) :
    Compile (List Operand × Option Pattern) :=
  match f, args with
  | .hasTag, [.text tag] => do
    testTag tags tag
    pure (args, none)
  | .hasNet, [.text net] =>
    match network? net with
    | some net => pure ([.text net], none)
    | none => reject (.unknownNetwork net)
  | .matching, [_, .text source] => do
    let p ← pattern source
    pure (args, p)
  | .getConfig, [.text key] =>
    match Setting.ofKey? key with
    | some setting => pure ([.text setting.key], none)
    | none => reject (.unknownConfigKey key)
  | _, _ => pure (args, none)

/-- The draft after a function. -/
def noteFunction (d : Draft) (f : Builtin) : Draft :=
  if f.followsState then { d with followsState := true } else d

/-- Note a function and return its call. -/
def finish (f : Builtin) (name : String) (args : List Operand) (p : Option Pattern) :
    Compile Expr := do
  if f.followsState then
    modify fun draft => { draft with followsState := true }
  return .call f name args p

theorem finish_run (f : Builtin) (name : String) (args : List Operand) (p : Option Pattern)
    (d : Draft) : StateT.run (finish f name args p) d = .ok (.call f name args p, noteFunction d f) := by
  unfold finish noteFunction
  split <;> rfl

/-- Tags are noted once each. -/
def noteTags (d : Draft) (ids : List TagId) : Draft :=
  { d with dependsOn := ids.foldl (fun l t => if l.contains t then l else l ++ [t]) d.dependsOn }

/-- Where there is a store, the name has to be the name of a tag. -/
theorem testTag_eq_ok {tags : Option TagStore} {name : String} :
    StateT.run (testTag tags name) d = .ok ((), d') ↔
      match tags with
      | none => d' = d
      | some store => store.tagsByName name ≠ [] ∧
        d' = noteTags d (((store.tagsByName name).filter (·.constrainable)).map (·.id)) := by
  unfold testTag
  cases tags with
  | none =>
    simp only [pure_run, Except.ok.injEq, Prod.mk.injEq, true_and]
    exact eq_comm
  | some store =>
    simp only []
    cases found : store.tagsByName name with
    | nil =>
      constructor
      · intro h
        cases h
      · rintro ⟨h, -⟩
        exact absurd rfl h
    | cons tag rest =>
      constructor
      · intro h
        cases h
        exact ⟨List.cons_ne_nil _ _, rfl⟩
      · rintro ⟨-, rfl⟩
        rfl

/-- Of the arguments that fit, only those of four functions need to be settled. -/
theorem plain_of_fits {f : Builtin} {args : List Operand} (fit : fits f.signature args = true)
    (tag : ∀ tag, f = .hasTag → args = [.text tag] → False)
    (net : ∀ net, f = .hasNet → args = [.text net] → False)
    (matching : ∀ a source, f = .matching → args = [a, .text source] → False)
    (key : ∀ key, f = .getConfig → args = [.text key] → False) :
    f ∉ [.hasTag, .hasNet, .matching, .getConfig] := by
  simp only [List.mem_cons, List.not_mem_nil, or_false, not_or]
  refine ⟨?_, ?_, ?_, ?_⟩ <;> rintro rfl <;> unfold fits at fit <;> split at fit <;>
    simp_all [Builtin.signature]

theorem settle_of_plain {tags : Option TagStore} {f : Builtin} {args : List Operand}
    (other : f ∉ [.hasTag, .hasNet, .matching, .getConfig]) :
    settle tags f args = pure (args, none) := by
  unfold settle
  split <;> first | rfl | simp at other

theorem call_run {tags : Option TagStore} {name : List Char} {args : List Operand} {f : Builtin}
    (named : Builtin.ofName? (String.ofList name) = some f) (fit : fits f.signature args = true)
    (numeric : notNumeric? f.signature args = none) :
    call tags name args =
      settle tags f args >>= fun x => finish f (String.ofList name) x.1 x.2 := by
  unfold call
  simp only [named, fit, numeric, Bool.not_true, Bool.false_eq_true, if_false]
  split
  · simp only [settle, bind_assoc, pure_bind]
    rfl
  · split
    · next known =>
      simp only [settle, known]
      rfl
    · next known =>
      simp only [settle, known]
      rfl
  · simp only [settle, bind_assoc, pure_bind]
    rfl
  · split
    · next known =>
      simp only [settle, known]
      rfl
    · next known =>
      simp only [settle, known]
      rfl
  · next tag net matching key =>
    rw [settle_of_plain (plain_of_fits fit tag net matching key)]
    rfl

theorem pattern_run (source : String) (d : Draft) :
    StateT.run (pattern source) d =
      match Pattern.read source with
      | .ok p => .ok (some p, d)
      | .error r =>
        .ok (none, { d with warnings := d.warnings ++ [invalidPattern source r] }) := by
  unfold pattern
  cases Pattern.read source <;> rfl

theorem settle_eq_ok {tags : Option TagStore} {f : Builtin} {args args' : List Operand}
    {p : Option Pattern} (fit : fits f.signature args = true) :
    StateT.run (settle tags f args) d = .ok ((args', p), d') ↔
      Settled tags d f args args' p d' := by
  constructor
  · intro h
    unfold settle at h
    split at h
    · obtain ⟨⟨⟩, d₁, tested, done⟩ := bind_eq_ok.1 h
      cases done
      exact .hasTag tested
    · split at h
      · next known =>
        cases h
        exact .hasNet known
      · cases h
    · obtain ⟨p', d₁, reads, done⟩ := bind_eq_ok.1 h
      cases done
      rw [pattern_run] at reads
      split at reads
      · next known =>
        cases reads
        exact .matching known
      · next refused =>
        cases reads
        exact .unmatched refused
    · split at h
      · next known =>
        cases h
        exact .getConfig known
      · cases h
    · next tag net matching key =>
      cases h
      exact .plain (plain_of_fits fit tag net matching key)
  · intro h
    cases h with
    | hasTag tested => rw [settle, bind_run_of_ok tested]; rfl
    | hasNet known => simp only [settle, known]; rfl
    | matching reads =>
      rw [settle, bind_run_of_ok (by rw [pattern_run, reads])]
      rfl
    | unmatched refused =>
      rw [settle, bind_run_of_ok (by rw [pattern_run, refused])]
      rfl
    | getConfig known => simp only [settle, known]; rfl
    | plain other =>
      rw [settle_of_plain other]
      rfl

/-- A call succeeds if the function is known, the arguments have its shape and can be settled. -/
theorem call_eq_ok {tags : Option TagStore} {name : List Char} {args : List Operand} {e : Expr} :
    StateT.run (call tags name args) d = .ok (e, d') ↔
      ∃ f args' p d₁, Builtin.ofName? (String.ofList name) = some f ∧
        fits f.signature args = true ∧ notNumeric? f.signature args = none ∧
        Settled tags d f args args' p d₁ ∧ e = .call f (String.ofList name) args' p ∧
        d' = noteFunction d₁ f := by
  constructor
  · intro h
    cases named : Builtin.ofName? (String.ofList name) with
    | none =>
      simp only [call, named] at h
      cases h
    | some f =>
      cases fit : fits f.signature args with
      | false =>
        simp only [call, named, fit, Bool.not_false, if_true] at h
        cases h
      | true =>
        cases numeric : notNumeric? f.signature args with
        | some e =>
          simp only [call, named, fit, numeric, Bool.not_true, Bool.false_eq_true, if_false] at h
          cases h
        | none =>
          rw [call_run named fit numeric] at h
          obtain ⟨⟨args', p⟩, d₁, settled, finished⟩ := bind_eq_ok.1 h
          rw [finish_run] at finished
          cases finished
          exact ⟨f, args', p, d₁, rfl, fit, numeric, (settle_eq_ok fit).1 settled, rfl, rfl⟩
  · rintro ⟨f, args', p, d₁, named, fit, numeric, settled, rfl, rfl⟩
    rw [call_run named fit numeric, bind_run_of_ok ((settle_eq_ok fit).2 settled)]
    exact finish_run ..

/-- What is known of a compiled expression is what the draft has gathered. -/
def compiledOf (e : Expr) (d : Draft) : Compiled where
  expr := e
  level := d.level
  followsState := d.followsState
  dependsOn := d.dependsOn
  keywords := d.keywords
  warnings := d.warnings

/-- Compiling a text that is not blank yields the condition that its start yields. -/
theorem run_eq (tags : Option TagStore) (text : List Char) : run tags text =
    if Text.blank text then .error (.rejected .empty)
    else (StateT.run (start tags (fuelFor text) text) {}).bind fun (e, d) =>
      if e.kind = .bool then .ok (compiledOf e d)
      else .error (.rejected (.notBoolean e.canonical)) := by
  unfold run
  split
  · rfl
  · cases started : StateT.run (start tags (fuelFor text) text) {} with
    | error failure =>
      simp only []
      rw [bind_run_of_error started]
      rfl
    | ok result =>
      obtain ⟨e, d⟩ := result
      simp only []
      rw [bind_run_of_ok started]
      unfold condition
      simp only [Except.bind]
      split <;> rfl

/-- Compiling succeeds if the text is not blank and yields a condition from the empty draft. -/
theorem run_eq_ok {tags : Option TagStore} {text : List Char} {c : Compiled} :
    run tags text = .ok c ↔ Text.blank text = false ∧ ∃ e d,
      StateT.run (start tags (fuelFor text) text) {} = .ok (e, d) ∧ e.kind = .bool ∧
        c = compiledOf e d := by
  rw [run_eq]
  cases Text.blank text with
  | true => exact ⟨nofun, fun h => nomatch h.1⟩
  | false =>
    simp only [Bool.false_eq_true, if_false, true_and]
    cases started : StateT.run (start tags (fuelFor text) text) {} with
    | error failure => exact ⟨nofun, fun ⟨_, _, h, _⟩ => nomatch h⟩
    | ok result =>
      obtain ⟨e, d⟩ := result
      simp only [Except.bind]
      constructor
      · intro h
        split at h
        · next kind => exact ⟨e, d, rfl, kind, (Except.ok.inj h).symm⟩
        · cases h
      · rintro ⟨e', d', same, kind, rfl⟩
        cases same
        rw [if_pos kind]

theorem compile_eq_ok {tags : Option TagStore} {text : String} {c : Compiled} :
    compile tags text = .ok c ↔ run tags text.toList = .ok c := by
  unfold compile
  cases run tags text.toList with
  | ok compiled => simp
  | error failure => cases failure <;> simp

/-- A combination is one of three, and its separator cuts the text into at least two parts. -/
theorem combination?_eq_some {text separator : List Char} {combine : List Expr → Expr}
    {parts : List (List Char)} (h : combination? text = some (separator, combine, parts)) :
    (separator, combine) ∈ combinations ∧ parts = splitAt separator text ∧ 2 ≤ parts.length := by
  obtain ⟨⟨separator', combine'⟩, mem, found⟩ := List.exists_of_findSome?_eq_some h
  simp only [Option.ite_none_right_eq_some, Option.some.injEq, Prod.mk.injEq] at found
  obtain ⟨enough, rfl, rfl, rfl⟩ := found
  exact ⟨mem, rfl, enough⟩

end Compile

end TagRules
