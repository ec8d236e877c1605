import TagRules.Proofs.Eval.Strict
import TagRules.Proofs.Expr.Canonical
import TagRules.Proofs.Expr.Shaped

/-!
# Typing

What the compiler builds is well typed: strict evaluation of it never stops with a fault, and what it
yields is of the kind of the expression. This is by induction on the tree that was built
(`Expr.Shaped.succeeds`). With it, every place in a compiled expression where a condition or a number
is needed yields one, and evaluation takes no default there (`Compile.evaluates_strictly`).
-/

namespace TagRules

namespace Eval

/-- Strict evaluation ends without a fault, whatever it begins with, and yields what satisfies a
condition. -/
def Strict.Succeeds {α : Type} (m : Strict α) (post : α → Prop) : Prop :=
  ∀ s, ∃ a t, m.run s = .ok (a, t) ∧ post a

variable {α β : Type} {sc : Scene}

namespace Strict.Succeeds

theorem pure {post : α → Prop} {a : α} (h : post a) : Succeeds (Pure.pure a) post :=
  fun s => ⟨a, s, rfl, h⟩

theorem lift {n : Eval α} {post : α → Prop} (h : ∀ s, post (n.run s).1) :
    Succeeds (Strict.lift n) post :=
  fun s => ⟨(n.run s).1, (n.run s).2, rfl, h s⟩

theorem bind {m : Strict α} {k : α → Strict β} {mid : α → Prop} {post : β → Prop}
    (first : Succeeds m mid) (second : ∀ a, mid a → Succeeds (k a) post) :
    Succeeds (m >>= k) post := by
  intro s
  obtain ⟨a, t, run, holds⟩ := first s
  obtain ⟨b, u, rest, yields⟩ := second a holds t
  refine ⟨b, u, ?_, yields⟩
  rw [StateT.run_bind, run]
  exact rest

/-- What yields a condition is not stopped where one is needed. -/
theorem condition {m : Strict Value} {k : Bool → Strict β} {post : β → Prop} (e : Expr)
    (first : Succeeds m (·.kind = .bool)) (second : ∀ b, Succeeds (k b) post) :
    Succeeds (do let v ← m; let b ← Strict.condition e v; k b) post := by
  apply first.bind
  intro v kind
  cases v with
  | bool b => exact second b
  | number n => cases kind

end Strict.Succeeds

open Strict (Succeeds)

theorem strictAny_succeeds {es : List Expr}
    (each : ∀ e ∈ es, Succeeds (e.strict sc) (·.kind = .bool)) :
    Succeeds (strictAny sc es) fun _ => True := by
  induction es with
  | nil =>
    unfold strictAny
    exact .pure trivial
  | cons e es ih =>
    unfold strictAny
    obtain ⟨first, others⟩ := List.forall_mem_cons.1 each
    refine .condition e first fun b => ?_
    cases b with
    | true => exact .pure trivial
    | false => exact ih others

theorem strictAll_succeeds {es : List Expr}
    (each : ∀ e ∈ es, Succeeds (e.strict sc) (·.kind = .bool)) :
    Succeeds (strictAll sc es) fun _ => True := by
  induction es with
  | nil =>
    unfold strictAll
    exact .pure trivial
  | cons e es ih =>
    unfold strictAll
    obtain ⟨first, others⟩ := List.forall_mem_cons.1 each
    refine .condition e first fun b => ?_
    cases b with
    | true => exact ih others
    | false => exact .pure trivial

theorem strictOdd_succeeds {es : List Expr}
    (each : ∀ e ∈ es, Succeeds (e.strict sc) (·.kind = .bool)) :
    Succeeds (strictOdd sc es) fun _ => True := by
  induction es with
  | nil =>
    unfold strictOdd
    exact .pure trivial
  | cons e es ih =>
    unfold strictOdd
    obtain ⟨first, others⟩ := List.forall_mem_cons.1 each
    exact .condition e first fun b => (ih others).bind fun rest _ => .pure trivial

/-- An argument stands for a number, unless it is a condition. -/
theorem operand_succeeds {a : Operand}
    (number : ∀ e, a = .expr e → Succeeds (e.strict sc) (·.kind = .number)) :
    Succeeds (a.strict sc) fun _ => True := by
  unfold Operand.strict
  split
  · next e =>
    apply (number e rfl).bind
    intro v kind
    cases v with
    | number n => exact .pure trivial
    | bool b => cases kind
  · exact .lift fun _ => trivial

/-- Arguments that fit have the number and the form that evaluation needs. -/
theorem argumentFault?_of_fits {f : Builtin} {args : List Operand}
    (fit : Compile.fits f.signature args = true) : argumentFault? f args = none := by
  unfold argumentFault?
  unfold Compile.fits at fit
  split at fit <;> simp_all

/-- A setting whose key is spelled properly is there. -/
theorem setting_succeeds {key : String} (known : (Setting.ofKey? key).map (·.key) = some key) :
    Succeeds (Strict.setting sc key) fun _ => True := by
  intro s
  rcases strict_setting_run sc key s with ⟨other, missing, -⟩ | ⟨-, reads⟩
  · obtain ⟨setting, is, -⟩ := Option.map_eq_some_iff.1 known
    unfold SettingsCache.get at missing
    rw [is] at missing
    revert missing
    split
    · intro missing
      cases missing
    · dsimp only
      split <;> · intro missing; cases missing
  · exact ⟨_, _, reads, trivial⟩

/-- A call whose arguments need no numbers yields what its function results in. -/
theorem plainCall_kind {f : Builtin} (plain : f.signature ≠ .quantity) (args : List Operand)
    (p : Option Pattern) (s : EvalState) :
    ((Eval.plainCall sc f args p).run s).1.kind = f.result := by
  unfold Eval.plainCall
  split
  · rfl
  · rfl
  · rfl
  · rfl
  · split <;> rfl
  · cases f <;> first | rfl | contradiction

theorem plainCall_succeeds {f : Builtin} {args : List Operand} (plain : f.signature ≠ .quantity)
    (fit : Compile.fits f.signature args = true) (spelled : f.Spelled args) (p : Option Pattern) :
    Succeeds (Strict.plainCall sc f args p) (·.kind = f.result) := by
  unfold Strict.plainCall
  split
  · obtain ⟨key, rfl⟩ := Compile.eq_text_of_fits rfl fit
    exact (setting_succeeds spelled).bind fun n _ => .pure rfl
  · exact .lift fun s => plainCall_kind plain args p s

end Eval

open Eval Eval.Strict

/-- An expression among numeric arguments that are accepted yields a number. -/
theorem Compile.kind_of_numeric {args : List Operand} (numeric : args.findSome? notNumeric?.wrong = none)
    {e : Expr} (mem : .expr e ∈ args) : e.kind = .number := by
  have fine := List.findSome?_eq_none_iff.1 numeric _ mem
  by_contra other
  simp [notNumeric?.wrong, other] at fine

/-- What the compiler builds is evaluated without a fault and yields what its kind says. -/
theorem Expr.Shaped.succeeds (sc : Scene) {e : Expr} (h : e.Shaped) :
    Succeeds (e.strict sc) (·.kind = e.kind) := by
  induction h with
  | literal b =>
    unfold Expr.strict
    exact .pure rfl
  | @not e _ kind ih =>
    rw [kind] at ih
    unfold Expr.strict
    exact .condition e ih fun b => .pure rfl
  | @combination separator combine es mem several _ kinds ih =>
    have each : ∀ e ∈ es, Succeeds (e.strict sc) (·.kind = .bool) := by
      intro e inside
      rw [← kinds e inside]
      exact ih e inside
    cases Compile.Combination.of_mem mem with
    | or =>
      unfold Expr.strict
      exact (strictAny_succeeds each).bind fun b _ => .pure rfl
    | and =>
      unfold Expr.strict
      exact (strictAll_succeeds each).bind fun b _ => .pure rfl
    | xor =>
      unfold Expr.strict
      rw [if_neg (Nat.not_lt.2 several)]
      exact (strictOdd_succeeds each).bind fun b _ => .pure rfl
  | @call f name args _ fit numeric spelled _ _ ih =>
    have amount {a : Operand} (mem : a ∈ args) (wanted : args.findSome? Compile.notNumeric?.wrong = none) :
        Succeeds (a.strict sc) fun _ => True := by
      apply operand_succeeds
      rintro e rfl
      rw [← Compile.kind_of_numeric wanted mem]
      exact ih e mem
    unfold Expr.strict
    rw [argumentFault?_of_fits fit]
    dsimp only
    split
    · next signature =>
      rw [signature] at fit numeric
      have result : f.result = .bool := by cases f <;> first | rfl | cases signature
      split
      · exact (amount (by simp) numeric).bind fun x _ => (amount (by simp) numeric).bind fun y _ =>
          .pure result.symm
      · exact .pure result.symm
    · next signature =>
      rw [signature] at fit numeric
      have result : f.result = .number := by cases f <;> first | rfl | cases signature
      split
      · exact (amount (by simp) numeric).bind fun x _ => .pure result.symm
      · exact .pure result.symm
    · next quantity => exact plainCall_succeeds quantity fit spelled _

/-- The conditions that an expression is put together of. -/
def Expr.conditions : Expr → List Expr
  | .not e => [e]
  | .or es => es
  | .and es => es
  | .xor es => es
  | _ => []

/-- The arguments of a call that stand for numbers. -/
def Expr.quantities : Expr → List Operand
  | .call f _ args _ =>
    match f.signature with
    | .numbers => args
    | .quantity => args
    | _ => []
  | _ => []

/-- The places in an expression where a value of some kind is needed, with the expressions there. -/
inductive Expr.Place (root : Expr) : Kind → Expr → Prop
  | root : Place root .bool root
  | condition {kind e part} (outer : Place root kind e) (mem : part ∈ e.conditions) :
    Place root .bool part
  | quantity {kind e part} (outer : Place root kind e) (mem : .expr part ∈ e.quantities) :
    Place root .number part

/-- What stands at a place in an expression that was built is of the kind that is needed there. -/
theorem Expr.Shaped.of_place {root : Expr} (h : root.Shaped) (kind : root.kind = .bool)
    {needed : Kind} {e : Expr} (place : root.Place needed e) : e.Shaped ∧ e.kind = needed := by
  induction place with
  | root => exact ⟨h, kind⟩
  | condition _ mem ih =>
    cases ih.1 with
    | literal b => cases mem
    | not inner kind =>
      cases List.mem_singleton.1 mem
      exact ⟨inner, kind⟩
    | combination among _ each kinds =>
      cases Compile.Combination.of_mem among <;> exact ⟨each _ mem, kinds _ mem⟩
    | call => cases mem
  | quantity _ mem ih =>
    cases ih.1 with
    | literal b => cases mem
    | not => cases mem
    | combination among =>
      cases Compile.Combination.of_mem among <;> cases mem
    | call _ _ numeric _ _ nested =>
      simp only [Expr.quantities] at mem
      unfold Compile.notNumeric? at numeric
      split at mem
      · next signature =>
        rw [signature] at numeric
        exact ⟨nested _ mem, Compile.kind_of_numeric numeric mem⟩
      · next signature =>
        rw [signature] at numeric
        exact ⟨nested _ mem, Compile.kind_of_numeric numeric mem⟩
      · cases mem

/-- Evaluation of what was compiled takes no default: at every place in it, strict evaluation ends
well with the value and the effects of evaluation, the value is of the kind that is needed there, and
nothing is reported that comes from a fault. -/
theorem Compile.evaluates_strictly {tags : Option TagStore} {text : String} {c : Compiled}
    (compiled : compile tags text = .ok c) (sc : Scene) {needed : Kind} {e : Expr}
    (place : c.expr.Place needed e) (s : EvalState) :
    ∃ v t, (e.strict sc).run s = .ok (v, t) ∧ (e.value sc).run s = (v, t) ∧ v.kind = needed ∧
      (∀ b, v = .bool b → (e.holds sc).run s = (b, t)) ∧ Adds sc s t := by
  obtain ⟨shaped, kind⟩ := shaped_of_compile compiled
  obtain ⟨built, rfl⟩ := shaped.of_place kind place
  obtain ⟨v, t, run, typed⟩ := built.succeeds sc s
  have follows := e.strict_follows sc
  have value := follows.same s (v, t) run
  refine ⟨v, t, run, value, typed, ?_, follows.adds s (v, t) run⟩
  rintro b rfl
  unfold Expr.holds
  rw [StateT.run_bind, value]
  rfl

/-- The hours in the comparison below the conjunction of a mixed condition stand where a number is
needed, and evaluation finds one. -/
theorem Compile.hours_evaluate_strictly :
    ∃ c, compile none Expr.mixed.canonical = .ok c ∧
      c.expr.Place .number (.call .hoursToSeconds "h2s" [.number (.ofNat 36)] none) ∧
      ∃ v t, ((Expr.call .hoursToSeconds "h2s" [.number (.ofNat 36)] none).strict
          ⟨{}, ⟨1⟩, {}, []⟩).run ⟨{}, []⟩ = .ok (v, t) ∧ v.kind = .number := by
  obtain ⟨_, literal⟩ | ⟨formed, kind⟩ := Expr.mixed_canonical
  · cases literal
  obtain ⟨c, compiled, same⟩ :=
    (formed.imp fun _ => Operand.Canonical.legible).compile_canonical kind
  have place : c.expr.Place .number (.call .hoursToSeconds "h2s" [.number (.ofNat 36)] none) := by
    rw [same]
    apply Expr.Place.quantity (e := .call .isGE "isGE"
        [.keyword .age, .expr (.call .hoursToSeconds "h2s" [.number (.ofNat 36)] none)] none)
    · apply Expr.Place.condition
      · apply Expr.Place.condition .root
        exact List.mem_cons_of_mem _ List.mem_cons_self
      · exact List.mem_cons_self
    · exact List.mem_cons_of_mem _ List.mem_cons_self
  obtain ⟨v, t, run, -, typed, -, -⟩ :=
    evaluates_strictly compiled ⟨{}, ⟨1⟩, {}, []⟩ place ⟨{}, []⟩
  exact ⟨c, compiled, place, v, t, run, typed⟩

end TagRules
