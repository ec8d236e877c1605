import TagRules.Proofs.Eval.Reading

/-!
# Evaluation with a record of what it uses

`Expr.traced` evaluates an expression as `Expr.value` does and notes, besides, each reading of file
names and each call of `matches` with its answer. The notes do not interfere: without them, it is the
evaluation that runs (`Traced.Follows.erases`). What a call keeps true of the notes and of the caches,
an evaluation keeps true, as all else that evaluation does leaves both alone (`Expr.holds_follows`).
-/

namespace TagRules

/-- Something that was done with file names or with a pattern. -/
inductive Use where
  /-- The file names of a subject are asked for. -/
  | listed (r : SubjectRecord)
  /-- A pattern is matched with an argument, with this answer. -/
  | matched (sc : Scene) (p : Pattern) (a : Operand) (answer : Bool)
  /-- The file names of a subject are forgotten. -/
  | forgotten (id : SubjectId)

/-- A step of evaluation that takes notes, newest first. -/
abbrev Traced := StateT (List Use) Eval

namespace Traced

/-- What there is to note before a call: that it asks for the file names of the subject. -/
def asks (sc : Scene) : Builtin → List Operand → Option Pattern → List Use
  | .contains, .keyword .fileNames :: _ :: _, _ => [.listed sc.subject]
  | .matching, .keyword .fileNames :: _, some _ => [.listed sc.subject]
  | _, _, _ => []

/-- What there is to note after a call of a value: that a pattern was matched, with the answer. -/
def answers (sc : Scene) (value : Value) : Builtin → List Operand → Option Pattern → List Use
  | .matching, a :: _, some p => [.matched sc p a value.truth]
  | _, _, _ => []

/-- The value of a call whose arguments need no numbers, with notes. -/
def plainCall (sc : Scene) (f : Builtin) (args : List Operand) (p : Option Pattern) :
    Traced Value := do
  modify fun uses => asks sc f args p ++ uses
  let value ← StateT.lift (Eval.plainCall sc f args p)
  modify fun uses => answers sc value f args p ++ uses
  return value

end Traced

open Eval (report condition)

mutual

/-- The value of an expression, with notes. -/
def Expr.traced (sc : Scene) : Expr → Traced Value
  | .literal v => pure v
  | .not e => do
    let v ← e.traced sc
    let b ← StateT.lift (condition sc e v)
    return .bool !b
  | .or es => do
    let b ← anyTraced sc es
    return .bool b
  | .and es => do
    let b ← allTraced sc es
    return .bool b
  | .xor es => do
    if es.length < 2 then
      StateT.lift (report sc "Two or more arguments required for ^")
      return .bool false
    else
      let b ← oddTraced sc es
      return .bool b
  | .call f _ args p =>
    match f.signature with
    | .numbers =>
      match args with
      | a :: b :: _ => do
        let x ← a.traced sc
        let y ← b.traced sc
        return .bool (Eval.compare f x y)
      | _ => pure (.bool false)
    | .quantity => do
      let unit := Double.ofNat (f.secondsPerUnit?.getD 0)
      match args with
      | a :: _ =>
        let x ← a.traced sc
        return .number (x.mul unit).trunc
      | [] => return .number (Double.zero.mul unit).trunc
    | _ => Traced.plainCall sc f args p

/-- One of the conditions holds, with notes. -/
def anyTraced (sc : Scene) : List Expr → Traced Bool
  | [] => pure false
  | e :: es => do
    let v ← e.traced sc
    if ← StateT.lift (condition sc e v) then return true else anyTraced sc es

/-- All conditions hold, with notes. -/
def allTraced (sc : Scene) : List Expr → Traced Bool
  | [] => pure true
  | e :: es => do
    let v ← e.traced sc
    if ← StateT.lift (condition sc e v) then allTraced sc es else return false

/-- An odd number of the conditions hold, with notes. -/
def oddTraced (sc : Scene) : List Expr → Traced Bool
  | [] => pure false
  | e :: es => do
    let v ← e.traced sc
    let b ← StateT.lift (condition sc e v)
    let rest ← oddTraced sc es
    return b != rest

/-- The number that an argument stands for, with notes. -/
def Operand.traced (sc : Scene) : Operand → Traced Double
  | .expr e => do
    match ← e.traced sc with
    | .number n => return n
    | .bool _ =>
      StateT.lift (report sc ("Invalid constraint numeric: " ++ e.canonical))
      return .zero
  | a => StateT.lift (a.amount sc)

end

/-- The truth of an expression, with notes. -/
def Expr.holdsTraced (sc : Scene) (e : Expr) : Traced Bool := do
  let v ← e.traced sc
  StateT.lift (condition sc e v)

/-- The caches of file names and of outcomes are the same. -/
structure Services.SameCaches (s t : Services) : Prop where
  fileNames : t.fileNames = s.fileNames
  outcomes : t.outcomes = s.outcomes
  stamp : t.nextStamp = s.nextStamp

/-- A step leaves the caches of file names and of outcomes alone. -/
def Eval.Quiet (m : Eval α) : Prop :=
  ∀ s : EvalState, s.services.SameCaches (m.run s).2.services

namespace Eval

theorem Quiet.pure (a : α) : Quiet (pure a : Eval α) :=
  fun _ => ⟨rfl, rfl, rfl⟩

theorem Quiet.bind {m : Eval α} {k : α → Eval β} (first : Quiet m) (second : ∀ a, Quiet (k a)) :
    Quiet (m >>= k) := by
  intro s
  have before := first s
  have after := second (m.run s).1 (m.run s).2
  exact ⟨after.fileNames.trans before.fileNames, after.outcomes.trans before.outcomes,
    after.stamp.trans before.stamp⟩

variable (sc : Scene)

theorem report_quiet (message : String) : Quiet (report sc message) :=
  fun _ => ⟨rfl, rfl, rfl⟩

/-- Report a problem and go on with a value in place of what is missing. -/
theorem report_then_quiet (message : String) (a : α) :
    Quiet (do report sc message; return a) :=
  (report_quiet sc message).bind fun _ => .pure a

theorem condition_quiet (e : Expr) (v : Value) : Quiet (condition sc e v) := by
  cases v with
  | bool b => exact .pure b
  | number n => exact report_then_quiet sc _ false

theorem string_quiet (a : Operand) : Quiet (string sc a) := by
  unfold string
  split
  · exact .pure _
  · exact .pure _
  · exact report_then_quiet sc _ ""

theorem countTag_quiet (name : String) : Quiet (countTag sc name) := by
  intro s
  rw [countTag_run]
  cases (s.services.store.tagsByName name).head? with
  | some tag => exact Quiet.pure _ s
  | none => exact report_then_quiet sc _ _ s

theorem setting_quiet (key : String) : Quiet (setting sc key) := by
  intro s
  rw [setting_run]
  cases (s.services.settings.get sc.world.config sc.world.ticks key).1 with
  | ok value => exact ⟨rfl, rfl, rfl⟩
  | error e => exact ⟨rfl, rfl, rfl⟩

theorem script_quiet (source : String) : Quiet (script sc source) := by
  unfold script
  cases sc.world.script with
  | none => exact report_then_quiet sc _ false
  | some hook =>
    dsimp only
    refine Quiet.bind (fun _ => ⟨rfl, rfl, rfl⟩) fun _ => ?_
    generalize hook _ sc.subject = answer
    cases answer with
    | bool b => exact .pure b
    | other => exact .pure false
    | failed message => exact report_then_quiet sc message false

theorem strings_quiet {a : Operand} (other : a ≠ .keyword .fileNames) : Quiet (strings sc a) := by
  unfold strings
  split
  · contradiction
  · exact (string_quiet sc _).bind fun s => .pure [s]

theorem matching_quiet (p : Pattern) {a : Operand} (other : a ≠ .keyword .fileNames) :
    Quiet (matching sc p a) := by
  unfold matching
  split
  · contradiction
  · exact (string_quiet sc _).bind fun s => .pure (p.search s)

/-- Only what asks for the file names touches the caches. -/
theorem plainCall_quiet {f : Builtin} {args : List Operand} {p : Option Pattern}
    (none : Traced.asks sc f args p = []) : Quiet (plainCall sc f args p) := by
  unfold plainCall
  split
  · exact (countTag_quiet sc _).bind fun n => .pure (Value.number n)
  · exact (setting_quiet sc _).bind fun n => .pure (Value.number n)
  · exact (script_quiet sc _).bind fun b => .pure (Value.bool b)
  · refine (strings_quiet sc ?_).bind fun texts => (string_quiet sc _).bind fun part => .pure _
    rintro rfl
    cases none
  · cases p with
    | none => exact .pure _
    | some p =>
      refine (matching_quiet sc p ?_).bind fun b => .pure (Value.bool b)
      rintro rfl
      cases none
  · exact .pure _

end Eval

namespace Traced

/-- A relation of notes and caches that calls keep, and whatever leaves the caches alone. -/
structure Invariant (sc : Scene) (I : List Use → Services → Prop) : Prop where
  quiet {uses : List Use} {s t : Services} : s.SameCaches t → I uses s → I uses t
  call (f : Builtin) (args : List Operand) (p : Option Pattern) {uses : List Use} {s : EvalState} :
    I uses s.services →
      I (((plainCall sc f args p).run uses).run s).1.2
        (((plainCall sc f args p).run uses).run s).2.services

/-- A step with notes does what the step without does, and keeps a relation of notes and caches. -/
structure Follows (I : List Use → Services → Prop) (m : Eval α) (n : Traced α) : Prop where
  erases : ∀ uses s, (((n.run uses).run s).1.1, ((n.run uses).run s).2) = m.run s
  keeps : ∀ (uses : List Use) (s : EvalState), I uses s.services →
    I ((n.run uses).run s).1.2 ((n.run uses).run s).2.services

namespace Follows

variable {I : List Use → Services → Prop} {sc : Scene}

theorem pure (a : α) : Follows I (pure a) (pure a) :=
  ⟨fun _ _ => rfl, fun _ _ holds => holds⟩

theorem bind {m : Eval α} {n : Traced α} {k : α → Eval β} {l : α → Traced β} (first : Follows I m n)
    (second : ∀ a, Follows I (k a) (l a)) : Follows I (m >>= k) (n >>= l) where
  erases uses s := by
    have before := first.erases uses s
    have after := (second ((n.run uses).run s).1.1).erases ((n.run uses).run s).1.2
      ((n.run uses).run s).2
    rw [StateT.run_bind, StateT.run_bind, StateT.run_bind, ← before]
    exact after
  keeps uses s holds :=
    (second _).keeps _ _ (first.keeps uses s holds)

theorem lift (inv : Invariant sc I) {m : Eval α} (quiet : Eval.Quiet m) :
    Follows I m (StateT.lift m) :=
  ⟨fun _ _ => rfl, fun _ s holds => inv.quiet (quiet s) holds⟩

theorem ite {c : Prop} [Decidable c] {m m' : Eval α} {n n' : Traced α} (yes : Follows I m n)
    (no : Follows I m' n') : Follows I (if c then m else m') (if c then n else n') := by
  by_cases h : c
  · simpa only [if_pos h] using yes
  · simpa only [if_neg h] using no

theorem report (inv : Invariant sc I) (message : String) (a : α) :
    Follows I (do Eval.report sc message; return a)
      (do StateT.lift (Eval.report sc message); return a) :=
  (lift inv (Eval.report_quiet sc message)).bind fun _ => .pure a

theorem condition (inv : Invariant sc I) (e : Expr) (v : Value) :
    Follows I (Eval.condition sc e v) (StateT.lift (Eval.condition sc e v)) :=
  lift inv (Eval.condition_quiet sc e v)

theorem plainCall (inv : Invariant sc I) (f : Builtin) (args : List Operand) (p : Option Pattern) :
    Follows I (Eval.plainCall sc f args p) (Traced.plainCall sc f args p) :=
  ⟨fun _ _ => rfl, fun _ _ => inv.call f args p⟩

end Follows

end Traced

open Traced

variable {sc : Scene} {I : List Use → Services → Prop}

/-- A call follows if its arguments do. -/
theorem Expr.call_follows (inv : Traced.Invariant sc I) (f : Builtin) (name : String)
    (args : List Operand) (p : Option Pattern)
    (amounts : ∀ a ∈ args, Follows I (a.amount sc) (a.traced sc)) :
    Follows I (Expr.value sc (.call f name args p)) (Expr.traced sc (.call f name args p)) := by
  unfold Expr.value Expr.traced
  generalize f.signature = kind
  cases kind with
  | numbers =>
    cases args with
    | nil => exact .pure _
    | cons a rest =>
      cases rest with
      | nil => exact .pure _
      | cons b rest =>
        exact (amounts a (by simp)).bind fun x => (amounts b (by simp)).bind fun y => .pure _
  | quantity =>
    cases args with
    | nil => exact .pure _
    | cons a rest => exact (amounts a (by simp)).bind fun x => .pure _
  | _ => exact .plainCall inv f args p

mutual

/-- Evaluation with notes is evaluation. -/
theorem Expr.value_follows (inv : Traced.Invariant sc I) :
    ∀ e : Expr, Follows I (e.value sc) (e.traced sc)
  | .literal v => by
    simp only [Expr.value, Expr.traced]
    exact .pure v
  | .not e => by
    simp only [Expr.value, Expr.traced]
    exact (e.value_follows inv).bind fun v => (Follows.condition inv e v).bind fun b => .pure _
  | .or es => by
    simp only [Expr.value, Expr.traced]
    exact (anyHolds_follows inv es).bind fun b => .pure _
  | .and es => by
    simp only [Expr.value, Expr.traced]
    exact (allHold_follows inv es).bind fun b => .pure _
  | .xor es => by
    simp only [Expr.value, Expr.traced]
    exact .ite (.report inv _ _) ((oddHold_follows inv es).bind fun b => .pure _)
  | .call f name args p => Expr.call_follows inv f name args p (amounts_follow inv args)

theorem anyHolds_follows (inv : Traced.Invariant sc I) :
    ∀ es : List Expr, Follows I (anyHolds sc es) (anyTraced sc es)
  | [] => by
    simp only [anyHolds, anyTraced]
    exact .pure false
  | e :: es => by
    simp only [anyHolds, anyTraced]
    exact (e.value_follows inv).bind fun v => (Follows.condition inv e v).bind fun b =>
      .ite (.pure true) (anyHolds_follows inv es)

theorem allHold_follows (inv : Traced.Invariant sc I) :
    ∀ es : List Expr, Follows I (allHold sc es) (allTraced sc es)
  | [] => by
    simp only [allHold, allTraced]
    exact .pure true
  | e :: es => by
    simp only [allHold, allTraced]
    exact (e.value_follows inv).bind fun v => (Follows.condition inv e v).bind fun b =>
      .ite (allHold_follows inv es) (.pure false)

theorem oddHold_follows (inv : Traced.Invariant sc I) :
    ∀ es : List Expr, Follows I (oddHold sc es) (oddTraced sc es)
  | [] => by
    simp only [oddHold, oddTraced]
    exact .pure false
  | e :: es => by
    simp only [oddHold, oddTraced]
    exact (e.value_follows inv).bind fun v => (Follows.condition inv e v).bind fun b =>
      (oddHold_follows inv es).bind fun rest => .pure _

theorem Operand.amount_follows (inv : Traced.Invariant sc I) :
    ∀ a : Operand, Follows I (a.amount sc) (a.traced sc)
  | .number n => by
    simp only [Operand.amount, Operand.traced]
    exact .lift inv (.pure n)
  | .expr e => by
    simp only [Operand.amount, Operand.traced]
    refine (e.value_follows inv).bind fun v => ?_
    cases v with
    | number n => exact .pure n
    | bool b => exact .report inv _ _
  | .keyword k => by
    simp only [Operand.amount, Operand.traced]
    refine .lift inv ?_
    split
    · exact Eval.report_then_quiet sc _ _
    · exact fun _ => ⟨rfl, rfl, rfl⟩
  | .bare word => by
    simp only [Operand.amount, Operand.traced]
    exact .lift inv (Eval.report_then_quiet sc _ _)
  | .text s => by
    simp only [Operand.amount, Operand.traced]
    exact .lift inv (Eval.report_then_quiet sc _ _)

theorem amounts_follow (inv : Traced.Invariant sc I) :
    ∀ args : List Operand, ∀ a ∈ args, Follows I (a.amount sc) (a.traced sc)
  | [] => fun _ mem => nomatch mem
  | a :: args => List.forall_mem_cons.2 ⟨a.amount_follows inv, amounts_follow inv args⟩

end

/-- The truth with notes is the truth. -/
theorem Expr.holds_follows (inv : Traced.Invariant sc I) (e : Expr) :
    Follows I (e.holds sc) (e.holdsTraced sc) :=
  (e.value_follows inv).bind fun v => .condition inv e v

end TagRules
