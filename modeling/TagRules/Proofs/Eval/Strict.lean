import TagRules.Proofs.Eval.View

/-!
# Strict evaluation

Where an expression has the wrong type or lacks an argument, the evaluator takes a default and goes
on. `Expr.strict` evaluates in the same way, but stops there with a `Fault`. Strict evaluation that
ends well is evaluation: it has the same value and the same effects, and the problems that it reports
are of other kinds (`Eval.Reported`). Strict evaluation that stops tells what evaluation reports at
that place (`Expr.strict_follows`).
-/

namespace TagRules

namespace Eval

/-- What is wrong with a place in an expression where the evaluator takes a default. -/
inductive Fault where
  /-- A number stands where a condition is needed. -/
  | notBoolean (e : Expr)
  /-- An exclusive or has one operand only. -/
  | tooFewOperands
  /-- A condition stands where a number is needed. -/
  | notNumeric (e : Expr)
  /-- There is no setting of that key. -/
  | unknownSetting (key : String)
  /-- A function lacks an argument. -/
  | missingArgument (f : Builtin)
  /-- A function reads a text, and its argument is no text literal. -/
  | notLiteral (f : Builtin)

/-- The problem that the evaluator reports there, if it reports one. -/
def Fault.message? : Fault → Option String
  | .notBoolean e => some ("'" ++ e.canonical ++ "' does not yield a boolean")
  | .tooFewOperands => some "Two or more arguments required for ^"
  | .notNumeric e => some ("Invalid constraint numeric: " ++ e.canonical)
  | .unknownSetting key => some (SettingError.unknownKey key).message
  | .missingArgument _ => none
  | .notLiteral _ => none

/-- The fault in the number and the form of the arguments of a call. -/
def argumentFault? (f : Builtin) (args : List Operand) : Option Fault :=
  match f.signature, args with
  | .nullary, _ => none
  | .literal, .text _ :: _ => none
  | .literal, _ => some (.notLiteral f)
  | .numbers, _ :: _ :: _ => none
  | .texts, _ :: _ :: _ => none
  | .pattern, _ :: _ => none
  | .quantity, _ :: _ => none
  | _, _ => some (.missingArgument f)

/-- A step of strict evaluation. -/
abbrev Strict := StateT EvalState (Except Fault)

namespace Strict

/-- A step of evaluation that takes no default. -/
def lift (m : Eval α) : Strict α :=
  fun s => .ok (m.run s)

/-- Require a condition. -/
def condition (e : Expr) : Value → Strict Bool
  | .bool b => pure b
  | .number _ => throw (.notBoolean e)

/-- Require a number. -/
def number (e : Expr) : Value → Strict Double
  | .number n => pure n
  | .bool _ => throw (.notNumeric e)

/-- Read a setting that there is. -/
def setting (sc : Scene) (key : String) : Strict Double := do
  let s ← get
  match (s.services.settings.get sc.world.config sc.world.ticks key).1 with
  | .error (.unknownKey key) => throw (.unknownSetting key)
  | _ => lift (Eval.setting sc key)

/-- The value of a call whose arguments need no numbers. -/
def plainCall (sc : Scene) (f : Builtin) (args : List Operand) (p : Option Pattern) :
    Strict Value :=
  match f with
  | .getConfig => do
    let n ← setting sc (textAt args 0)
    return .number n
  | f => lift (Eval.plainCall sc f args p)

end Strict

end Eval

open Eval

mutual

/-- The value of an expression without faults. -/
def Expr.strict (sc : Scene) : Expr → Strict Value
  | .literal v => pure v
  | .not e => do
    let v ← e.strict sc
    let b ← Strict.condition e v
    return .bool !b
  | .or es => do
    let b ← strictAny sc es
    return .bool b
  | .and es => do
    let b ← strictAll sc es
    return .bool b
  | .xor es => do
    if es.length < 2 then throw .tooFewOperands
    else
      let b ← strictOdd sc es
      return .bool b
  | .call f _ args p =>
    match argumentFault? f args with
    | some fault => throw fault
    | none =>
      match f.signature with
      | .numbers =>
        match args with
        | a :: b :: _ => do
          let x ← a.strict sc
          let y ← b.strict sc
          return .bool (Eval.compare f x y)
        | _ => pure (.bool false)
      | .quantity => do
        let unit := Double.ofNat (f.secondsPerUnit?.getD 0)
        match args with
        | a :: _ =>
          let x ← a.strict sc
          return .number (x.mul unit).trunc
        | [] => return .number (Double.zero.mul unit).trunc
      | _ => Strict.plainCall sc f args p

/-- One of the conditions holds. -/
def strictAny (sc : Scene) : List Expr → Strict Bool
  | [] => pure false
  | e :: es => do
    let v ← e.strict sc
    if ← Strict.condition e v then return true else strictAny sc es

/-- All conditions hold. -/
def strictAll (sc : Scene) : List Expr → Strict Bool
  | [] => pure true
  | e :: es => do
    let v ← e.strict sc
    if ← Strict.condition e v then strictAll sc es else return false

/-- An odd number of the conditions hold. -/
def strictOdd (sc : Scene) : List Expr → Strict Bool
  | [] => pure false
  | e :: es => do
    let v ← e.strict sc
    let b ← Strict.condition e v
    let rest ← strictOdd sc es
    return b != rest

/-- The number that an argument stands for. Of the arguments, only expressions have a type. -/
def Operand.strict (sc : Scene) : Operand → Strict Double
  | .expr e => do
    let v ← e.strict sc
    Strict.number e v
  | a => Strict.lift (a.amount sc)

end

namespace Eval

/-- The problems that an evaluation without faults may report. -/
inductive Reported (sc : Scene) : String → Prop
  | noScript : Reported sc "Script evaluation is not available"
  | script {hook call message} (there : sc.world.script = some hook)
    (failed : hook call sc.subject = .failed message) : Reported sc message
  | noValue (key : String) : Reported sc (SettingError.noValue key).message
  | noTag (name : String) : Reported sc ("Tag '" ++ name ++ "' not found")
  | noString (a : Operand) : Reported sc ("Invalid constraint string: " ++ a.canonical)
  | textual (k : Keyword) (textual : k.isTextual = true) :
    Reported sc ("Invalid constraint numeric: " ++ k.text)
  | bare (word : String) : Reported sc ("Invalid constraint keyword: " ++ word)
  | text (s : String) : Reported sc ("Invalid constraint numeric: \"" ++ s ++ "\"")

/-- The diagnostics of one state are those of another one and new ones, each of which may be
reported without a fault. -/
def Adds (sc : Scene) (s t : EvalState) : Prop :=
  ∃ new, t.diagnostics = new ++ s.diagnostics ∧ ∀ message ∈ new, Reported sc message

/-- A step of evaluation that reports nothing else than what may be reported without a fault. -/
def Reports (sc : Scene) (m : Eval α) : Prop :=
  ∀ s, Adds sc s (m.run s).2

variable {sc : Scene} {α β : Type}

theorem Adds.of_eq {s t : EvalState} (same : t.diagnostics = s.diagnostics) : Adds sc s t :=
  ⟨[], same, fun _ mem => absurd mem List.not_mem_nil⟩

theorem Adds.trans {s t u : EvalState} (first : Adds sc s t) (second : Adds sc t u) :
    Adds sc s u := by
  obtain ⟨new, same, reported⟩ := first
  obtain ⟨newer, same', reported'⟩ := second
  refine ⟨newer ++ new, by rw [same', same, List.append_assoc], ?_⟩
  intro message mem
  exact (List.mem_append.1 mem).elim (reported' message) (reported message)

namespace Reports

variable {m : Eval α}

theorem pure (a : α) : Reports sc (pure a) :=
  fun _ => .of_eq rfl

theorem bind {k : α → Eval β} (first : Reports sc m) (second : ∀ a, Reports sc (k a)) :
    Reports sc (m >>= k) := by
  intro s
  exact (first s).trans (second (m.run s).1 (m.run s).2)

theorem of_report {message : String} (reported : Reported sc message) (a : α) :
    Reports sc (do report sc message; return a) := by
  intro s
  refine ⟨[message], rfl, ?_⟩
  intro other mem
  rwa [List.mem_singleton.1 mem]

end Reports

theorem string_reports (sc : Scene) (a : Operand) : Reports sc (string sc a) := by
  unfold string
  split
  · exact .pure _
  · exact .pure _
  · exact .of_report (.noString _) ""

theorem strings_reports (sc : Scene) (a : Operand) : Reports sc (strings sc a) := by
  unfold strings
  split
  · intro s
    exact .of_eq rfl
  · exact (string_reports sc _).bind fun text => .pure [text]

theorem matching_reports (sc : Scene) (p : Pattern) (a : Operand) : Reports sc (matching sc p a) := by
  by_cases files : a = .keyword .fileNames
  · subst files
    intro s
    apply Adds.of_eq
    rcases matching_fileNames_run sc p s with run | run
    · rw [run]
    · rw [run]
  · unfold matching
    split
    · contradiction
    · exact (string_reports sc a).bind fun text => .pure (p.search text)

theorem script_reports (sc : Scene) (source : String) : Reports sc (script sc source) := by
  unfold script
  cases there : sc.world.script with
  | none => exact .of_report .noScript false
  | some hook =>
    apply Reports.bind (fun _ => .of_eq rfl)
    intro _
    split
    · exact .pure _
    · exact .pure false
    · next failed => exact .of_report (.script there failed) false

theorem countTag_reports (sc : Scene) (name : String) : Reports sc (countTag sc name) := by
  intro s
  rw [countTag_run]
  split
  · exact Reports.pure _ s
  · exact Reports.of_report (.noTag name) Double.zero s

/-- Reading a setting that there is reports at most that it has no value. -/
theorem setting_adds {key : String} {s : EvalState}
    (known : ∀ other, (s.services.settings.get sc.world.config sc.world.ticks key).1 ≠
      .error (.unknownKey other)) : Adds sc s ((setting sc key).run s).2 := by
  rw [setting_run]
  split
  · exact .of_eq rfl
  · next e problem =>
    cases e with
    | unknownKey other => exact absurd problem (known other)
    | noValue other =>
      have reported : Reported sc (SettingError.noValue other).message := .noValue other
      exact Reports.of_report reported Double.zero _

/-- A call that reads no setting. -/
theorem plainCall_reports (sc : Scene) {f : Builtin} (other : f ≠ .getConfig) (args : List Operand)
    (p : Option Pattern) : Reports sc (plainCall sc f args p) := by
  unfold plainCall
  split
  · exact (countTag_reports sc _).bind fun n => .pure _
  · contradiction
  · exact (script_reports sc _).bind fun b => .pure _
  · exact (strings_reports sc _).bind fun texts => (string_reports sc _).bind fun part => .pure _
  · split
    · exact .pure _
    · exact (matching_reports sc _ _).bind fun b => .pure _
  · exact .pure _

theorem keyword_reports (sc : Scene) (k : Keyword) : Reports sc (Operand.amount sc (.keyword k)) := by
  unfold Operand.amount
  split
  · next textual => exact .of_report (.textual k textual) Double.zero
  · intro s
    exact .of_eq rfl

/-- What one step of evaluation has in common with a step that is strict. -/
structure Follows (sc : Scene) (m : Strict α) (n : Eval α) : Prop where
  /-- Without a fault, the steps are the same. -/
  same : ∀ s r, m.run s = .ok r → n.run s = r
  /-- Without a fault, nothing is reported that comes from one. -/
  adds : ∀ s r, m.run s = .ok r → Adds sc s r.2
  /-- A fault that has a message is reported. -/
  tells : ∀ s fault message, m.run s = .error fault → fault.message? = some message →
    message ∈ (n.run s).2.diagnostics
  grows : ∀ s, s.diagnostics <:+ (n.run s).2.diagnostics

namespace Follows

variable {m : Strict α} {n : Eval α}

theorem lift (reports : Reports sc n) : Follows sc (Strict.lift n) n where
  same s r run := Except.ok.inj run
  adds s r run := Except.ok.inj run ▸ reports s
  tells s fault message run := nomatch run
  grows s := by
    obtain ⟨new, same, -⟩ := reports s
    exact ⟨new, same.symm⟩

theorem pure (a : α) : Follows sc (Pure.pure a) (Pure.pure a : Eval α) :=
  lift (.pure a)

/-- A fault where evaluation does no more than to report it. -/
theorem throw {fault : Fault} (grows : ∀ s, s.diagnostics <:+ (n.run s).2.diagnostics)
    (tells : ∀ s message, fault.message? = some message → message ∈ (n.run s).2.diagnostics) :
    Follows sc (throw fault) n where
  same s r run := nomatch run
  adds s r run := nomatch run
  tells s other message run named := by
    cases run
    exact tells s message named
  grows := grows

theorem bind {k : α → Strict β} {l : α → Eval β} (first : Follows sc m n)
    (second : ∀ a, Follows sc (k a) (l a)) : Follows sc (m >>= k) (n >>= l) where
  same s r run := by
    rw [StateT.run_bind] at run
    cases first' : m.run s with
    | error fault =>
      rw [first'] at run
      cases run
    | ok result =>
      rw [first'] at run
      have same := first.same s result first'
      have rest := (second result.1).same result.2 r run
      rw [← rest, ← same]
      rfl
  adds s r run := by
    rw [StateT.run_bind] at run
    cases first' : m.run s with
    | error fault =>
      rw [first'] at run
      cases run
    | ok result =>
      rw [first'] at run
      exact (first.adds s result first').trans ((second result.1).adds result.2 r run)
  tells s fault message run named := by
    rw [StateT.run_bind] at run
    cases first' : m.run s with
    | error other =>
      rw [first'] at run
      cases run
      have told := first.tells s fault message first' named
      exact ((second (n.run s).1).grows (n.run s).2).mem told
    | ok result =>
      rw [first'] at run
      have told := (second result.1).tells result.2 fault message run named
      rw [← first.same s result first'] at told
      exact told
  grows s := (first.grows s).trans ((second (n.run s).1).grows (n.run s).2)

theorem ite {c : Prop} [Decidable c] {m' : Strict α} {n' : Eval α} (yes : c → Follows sc m n)
    (no : ¬c → Follows sc m' n') :
    Follows sc (if c then m else m') (if c then n else n') := by
  by_cases h : c
  · rw [if_pos h, if_pos h]
    exact yes h
  · rw [if_neg h, if_neg h]
    exact no h

end Follows

/-- Reporting a fault and going on with a default. -/
theorem report_follows (sc : Scene) {fault : Fault} {message : String}
    (named : fault.message? = some message) (a : α) :
    Follows sc (throw fault) (do report sc message; return a) := by
  apply Follows.throw
  · intro s
    exact List.suffix_cons message s.diagnostics
  · intro s other named'
    cases named.symm.trans named'
    exact List.mem_cons_self

theorem condition_follows (sc : Scene) (e : Expr) (v : Value) :
    Follows sc (Strict.condition e v) (condition sc e v) := by
  cases v with
  | bool b => exact .pure b
  | number n => exact report_follows sc rfl false

/-- Reading a setting strictly, where there is one and where there is none. -/
theorem strict_setting_run (sc : Scene) (key : String) (s : EvalState) :
    (∃ other, (s.services.settings.get sc.world.config sc.world.ticks key).1 =
        .error (.unknownKey other) ∧
      (Strict.setting sc key).run s = .error (.unknownSetting other)) ∨
    (∀ other, (s.services.settings.get sc.world.config sc.world.ticks key).1 ≠
        .error (.unknownKey other)) ∧
      (Strict.setting sc key).run s = .ok ((setting sc key).run s) := by
  have run : (Strict.setting sc key).run s = StateT.run
      (match (s.services.settings.get sc.world.config sc.world.ticks key).1 with
        | .error (.unknownKey other) => throw (.unknownSetting other)
        | _ => Strict.lift (setting sc key)) s := rfl
  rw [run]
  split
  · next other missing => exact .inl ⟨other, missing, rfl⟩
  · next known =>
    right
    constructor
    · intro other missing
      exact known other missing
    · rfl

theorem setting_follows (sc : Scene) (key : String) :
    Follows sc (Strict.setting sc key) (setting sc key) := by
  constructor
  · intro s r run
    rcases strict_setting_run sc key s with ⟨other, -, stops⟩ | ⟨-, reads⟩
    · cases stops.symm.trans run
    · exact Except.ok.inj (reads.symm.trans run)
  · intro s r run
    rcases strict_setting_run sc key s with ⟨other, -, stops⟩ | ⟨known, reads⟩
    · cases stops.symm.trans run
    · rw [← Except.ok.inj (reads.symm.trans run)]
      exact setting_adds known
  · intro s fault message run named
    rcases strict_setting_run sc key s with ⟨other, missing, stops⟩ | ⟨-, reads⟩
    · cases stops.symm.trans run
      cases named
      rw [setting_run, missing]
      exact List.mem_cons_self
    · cases reads.symm.trans run
  · intro s
    rw [setting_run]
    split
    · exact List.suffix_refl _
    · exact List.suffix_cons _ _

theorem plainCall_follows (sc : Scene) (f : Builtin) (args : List Operand) (p : Option Pattern) :
    Follows sc (Strict.plainCall sc f args p) (plainCall sc f args p) := by
  unfold Strict.plainCall
  split
  · exact (setting_follows sc _).bind fun n => .pure (Value.number n)
  · next other => exact .lift (plainCall_reports sc other args p)

/-- What is wrong with the arguments of a call has no message. -/
theorem message?_argumentFault? {f : Builtin} {args : List Operand} {fault : Fault}
    (wrong : argumentFault? f args = some fault) : fault.message? = none := by
  unfold argumentFault? at wrong
  split at wrong <;> cases wrong <;> rfl

end Eval

open Eval

/-- A call does what its strict evaluation does, if its arguments do. -/
theorem call_follows (sc : Scene) (f : Builtin) (name : String) (args : List Operand)
    (p : Option Pattern) (amounts : ∀ a ∈ args, Follows sc (a.strict sc) (a.amount sc)) :
    Follows sc (Expr.strict sc (.call f name args p)) (Expr.value sc (.call f name args p)) := by
  have unguarded : Follows sc
      (match f.signature with
      | .numbers =>
        match args with
        | a :: b :: _ => do
          let x ← a.strict sc
          let y ← b.strict sc
          return .bool (Eval.compare f x y)
        | _ => pure (.bool false)
      | .quantity => do
        let unit := Double.ofNat (f.secondsPerUnit?.getD 0)
        match args with
        | a :: _ =>
          let x ← a.strict sc
          return .number (x.mul unit).trunc
        | [] => return .number (Double.zero.mul unit).trunc
      | _ => Strict.plainCall sc f args p) (Expr.value sc (.call f name args p)) := by
    by_cases numbers : f.signature = .numbers
    · unfold Expr.value
      simp only [numbers]
      cases args with
      | nil => exact .pure _
      | cons a rest =>
        cases rest with
        | nil => exact .pure _
        | cons b rest =>
          exact (amounts a (by simp)).bind fun x => (amounts b (by simp)).bind fun y =>
            .pure (Value.bool (Eval.compare f x y))
    · by_cases quantity : f.signature = .quantity
      · unfold Expr.value
        simp only [quantity]
        cases args with
        | nil => exact .pure _
        | cons a rest => exact (amounts a (by simp)).bind fun x => .pure (Value.number _)
      · rw [Expr.value_plainCall numbers quantity]
        split
        · contradiction
        · contradiction
        · exact plainCall_follows sc f args p
  unfold Expr.strict
  split
  · next fault wrong =>
    apply Follows.throw unguarded.grows
    intro s message named
    cases (message?_argumentFault? wrong).symm.trans named
  · exact unguarded

mutual

/-- Evaluation does what strict evaluation does as long as there is no fault, and reports the first
fault. -/
theorem Expr.strict_follows (sc : Scene) : ∀ e : Expr, Follows sc (e.strict sc) (e.value sc)
  | .literal v => by
    simp only [Expr.strict, Expr.value]
    exact .pure v
  | .not e => by
    simp only [Expr.strict, Expr.value]
    exact (e.strict_follows sc).bind fun v => (condition_follows sc e v).bind fun b =>
      .pure (Value.bool !b)
  | .or es => by
    simp only [Expr.strict, Expr.value]
    exact (strictAny_follows sc es).bind fun b => .pure (Value.bool b)
  | .and es => by
    simp only [Expr.strict, Expr.value]
    exact (strictAll_follows sc es).bind fun b => .pure (Value.bool b)
  | .xor es => by
    simp only [Expr.strict, Expr.value]
    apply Follows.ite
    · intro few
      exact report_follows sc rfl (Value.bool false)
    · intro enough
      exact (strictOdd_follows sc es).bind fun b => .pure (Value.bool b)
  | .call f name args p => call_follows sc f name args p (operands_strict_follow sc args)

theorem strictAny_follows (sc : Scene) : ∀ es : List Expr,
    Follows sc (strictAny sc es) (anyHolds sc es)
  | [] => by
    simp only [strictAny, anyHolds]
    exact .pure false
  | e :: es => by
    simp only [strictAny, anyHolds]
    exact (e.strict_follows sc).bind fun v => (condition_follows sc e v).bind fun b =>
      .ite (fun _ => .pure true) fun _ => strictAny_follows sc es

theorem strictAll_follows (sc : Scene) : ∀ es : List Expr,
    Follows sc (strictAll sc es) (allHold sc es)
  | [] => by
    simp only [strictAll, allHold]
    exact .pure true
  | e :: es => by
    simp only [strictAll, allHold]
    exact (e.strict_follows sc).bind fun v => (condition_follows sc e v).bind fun b =>
      .ite (fun _ => strictAll_follows sc es) fun _ => .pure false

theorem strictOdd_follows (sc : Scene) : ∀ es : List Expr,
    Follows sc (strictOdd sc es) (oddHold sc es)
  | [] => by
    simp only [strictOdd, oddHold]
    exact .pure false
  | e :: es => by
    simp only [strictOdd, oddHold]
    exact (e.strict_follows sc).bind fun v => (condition_follows sc e v).bind fun b =>
      (strictOdd_follows sc es).bind fun rest => .pure (b != rest)

theorem Operand.strict_follows (sc : Scene) : ∀ a : Operand, Follows sc (a.strict sc) (a.amount sc)
  | .number n => by
    simp only [Operand.strict, Operand.amount]
    exact .pure n
  | .expr e => by
    simp only [Operand.strict, Operand.amount]
    apply (e.strict_follows sc).bind
    intro v
    cases v with
    | number n => exact .pure n
    | bool b => exact report_follows sc rfl Double.zero
  | .keyword k => by
    simp only [Operand.strict]
    exact .lift (keyword_reports sc k)
  | .bare word => by
    simp only [Operand.strict, Operand.amount]
    exact .lift (.of_report (.bare word) Double.zero)
  | .text s => by
    simp only [Operand.strict, Operand.amount]
    exact .lift (.of_report (.text s) Double.zero)

theorem operands_strict_follow (sc : Scene) : ∀ args : List Operand, ∀ a ∈ args,
    Follows sc (a.strict sc) (a.amount sc)
  | [] => fun _ h => nomatch h
  | a :: args => List.forall_mem_cons.2 ⟨a.strict_follows sc, operands_strict_follow sc args⟩

end

end TagRules
