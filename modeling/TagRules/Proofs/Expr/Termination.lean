import TagRules.Proofs.Expr.Fuel
import TagRules.Proofs.Expr.Leftmost
import TagRules.Proofs.Expr.Local
import TagRules.Proofs.Expr.Weight

/-!
# Compiling ends

Compiling a text without an opening brace ends for a reason of its own, never for want of fuel. The
steps call each other with texts of which each is lighter than the one before, or as heavy and
nearer to the characters behind its placeholders: flattening puts one more placeholder in front of a
list of arguments, and to follow it takes one step. So six units of fuel for a unit of weight and
two for a placeholder are enough (`enough`), and the weight of a text is the number of its
characters that are not blank, at most.
-/

namespace TagRules

namespace Compile

variable {α β : Type} {tags : Option TagStore} {slots : List Slot}

/-- From a draft with some slots a step does not run out of fuel, and it keeps the slots. -/
def Ends (slots : List Slot) (m : Compile α) : Prop :=
  ∀ d, slots <+: d.slots → StateT.run m d ≠ .error .exhausted ∧
    ∀ a d', StateT.run m d = .ok (a, d') → d.slots <+: d'.slots

namespace Ends

theorem mono {slots' : List Slot} {m : Compile α} (h : Ends slots m) (front : slots <+: slots') :
    Ends slots' m :=
  fun d here => h d (front.trans here)

theorem pure (a : α) : Ends slots (pure a : Compile α) :=
  fun _ _ => ⟨nofun, fun _ _ run => by cases run; exact List.prefix_refl _⟩

theorem reject (e : CompileError) : Ends slots (reject e : Compile α) :=
  fun _ _ => ⟨nofun, nofun⟩

theorem bind {m : Compile α} {k : α → Compile β} (first : Ends slots m)
    (second : ∀ a d d', slots <+: d.slots → StateT.run m d = .ok (a, d') → Ends d'.slots (k a)) :
    Ends slots (m >>= k) := by
  intro d here
  obtain ⟨ends, keeps⟩ := first d here
  cases run : StateT.run m d with
  | error failure =>
    rw [bind_run_of_error run]
    exact ⟨fun out => ends (by rw [run]; cases out; rfl), nofun⟩
  | ok result =>
    obtain ⟨a, d₁⟩ := result
    rw [bind_run_of_ok run]
    obtain ⟨ends', keeps'⟩ := second a d d₁ here run d₁ (List.prefix_refl _)
    exact ⟨ends', fun b d' done => (keeps a d₁ run).trans (keeps' b d' done)⟩

/-- What follows does not depend on the draft. -/
theorem then_ {m : Compile α} {k : α → Compile β} (first : Ends slots m)
    (second : ∀ a, Ends slots (k a)) : Ends slots (m >>= k) :=
  first.bind fun a d d' here run => (second a).mono (here.trans ((first d here).2 a d' run))

theorem mapM {f : β → Compile α} {l : List β} (each : ∀ b ∈ l, Ends slots (f b)) :
    Ends slots (l.mapM f) := by
  induction l with
  | nil => exact .pure _
  | cons b l ih =>
    rw [List.mapM_cons]
    exact (each b List.mem_cons_self).then_ fun _ =>
      (ih fun b mem => each b (List.mem_cons_of_mem _ mem)).then_ fun _ => .pure _

theorem fill (slot : Slot) : Ends slots (fill slot) :=
  fun _ _ => ⟨nofun, fun _ _ run => by cases run; exact List.prefix_append _ _⟩

theorem slot? (key : List Char) : Ends slots (slot? key) :=
  fun _ _ => ⟨nofun, fun _ _ run => by cases run; exact List.prefix_refl _⟩

/-- What follows knows what is behind a placeholder. -/
theorem lookup {key : List Char} {k : Option Slot → Compile α}
    (each : ∀ slot (d : Draft), slots <+: d.slots → (placeholder? key).bind (d.slots[·]?) = slot →
      Ends d.slots (k slot)) : Ends slots (Compile.slot? key >>= k) :=
  (Ends.slot? key).bind fun slot d d' here run => by
    rw [slot?_run] at run
    cases run
    exact each _ d here rfl

theorem of_local {m : Compile α} (h : Local m) : Ends slots m := by
  induction h with
  | pure a => exact .pure a
  | reject e => exact .reject e
  | note aside =>
    exact fun d _ => ⟨nofun, fun _ _ run => (Local.note aside).slots_eq run ▸ List.prefix_refl _⟩
  | bind _ _ ih ih' => exact ih.then_ ih'

end Ends

section Pieces

variable {loose : Prop} {height weight fuel : Nat} {plain inner rest : List Char}

theorem Weighs.parenthesis
    (h : Weighs loose slots height (plain ++ '(' :: (inner ++ ')' :: rest)) weight) :
    ∃ a u b, Weighs loose slots height plain a ∧ Weighs loose slots height inner u ∧
      Weighs loose slots height rest b ∧ a + (u + 2) + b = weight := by
  obtain ⟨a, v, front, back, sum⟩ := h.cut_at (by decide)
  obtain ⟨u, b, within, rest, sum'⟩ := back.cut_at (by decide)
  exact ⟨a, u, b, front, within, rest, by simp at sum sum'; omega⟩

/-- The inside of a parenthesis is lighter by the parenthesis. -/
theorem Weighs.inside {pieces : List Piece}
    (h : Weighs loose slots height (pieces.flatMap Piece.text ++ rest) weight) :
    ∀ piece ∈ pieces, ∀ inner, piece.inside? = some inner →
      ∃ u, Weighs loose slots height inner u ∧ u + 2 ≤ weight := by
  intro piece mem inner within
  obtain ⟨front, back, rfl⟩ := List.append_of_mem mem
  have text : piece.text = '(' :: (inner ++ [')']) := by
    cases piece <;> cases within <;> rfl
  simp only [List.flatMap_append, List.flatMap_cons, text, List.append_assoc, List.cons_append,
    List.nil_append] at h
  obtain ⟨a, u, b, -, weighs, -, sum⟩ := h.parenthesis
  exact ⟨u, weighs, by omega⟩

/-- The flat text of pieces is not heavier than the pieces, and one placeholder higher. Of the text
before the remaining pieces, `done` has been flattened and `plain` is to stay as it is. -/
theorem Weighs.flat {pieces : List Piece} {done : List Char} {a b : Nat} {d d' : Draft}
    {parts : List (List Char)} (each : ∀ piece ∈ pieces, Ends d.slots (part tags fuel piece))
    (before : Weighs loose d.slots (height + 1) done a)
    (after : Weighs loose d.slots height (plain ++ (pieces.flatMap Piece.text ++ rest)) b)
    (run : StateT.run (pieces.mapM (part tags fuel)) d = .ok (parts, d')) :
    ∃ u ≤ a + b,
      Weighs loose d'.slots (height + 1) (done ++ (plain ++ (parts.flatten ++ rest))) u := by
  induction pieces generalizing plain done a b d parts with
  | nil =>
    cases run
    exact ⟨_, Nat.le_refl _, before.append (after.higher (Nat.le_succ _))⟩
  | cons piece pieces ih =>
    rw [List.mapM_cons] at run
    obtain ⟨first, d₁, run₁, run⟩ := bind_eq_ok.1 run
    obtain ⟨others, _, run₂, done'⟩ := bind_eq_ok.1 run
    cases done'
    have grows := ((each piece List.mem_cons_self) d (List.prefix_refl _)).2 _ _ run₁
    have each' : ∀ piece ∈ pieces, Ends d₁.slots (part tags fuel piece) :=
      fun piece mem => (each piece (List.mem_cons_of_mem _ mem)).mono grows
    -- A parenthesis is done with, and nothing plain is before the pieces that remain.
    have enclose {inner : List Char} (text : piece.text = '(' :: inner ++ [')'])
        (weighs : ∀ u, Weighs loose d.slots height inner u →
          ∃ v ≤ u + 2, Weighs loose d₁.slots (height + 1) first v) :
        ∃ u ≤ a + b, Weighs loose d'.slots (height + 1)
          (done ++ (plain ++ ((first :: others).flatten ++ rest))) u := by
      simp only [List.flatMap_cons, text, List.append_assoc, List.cons_append,
        List.nil_append] at after
      obtain ⟨x, u, y, front, within, back, sum⟩ := after.parenthesis
      obtain ⟨v, light, weighs⟩ := weighs u within
      have before' :=
        (before.mono grows).append (((front.mono grows).higher (Nat.le_succ _)).append weighs)
      have back' : Weighs loose d₁.slots height ([] ++ (pieces.flatMap Piece.text ++ rest)) y :=
        back.mono grows
      obtain ⟨w, le, result⟩ := ih each' before' back' run₂
      exact ⟨w, by omega, by simpa using result⟩
    cases piece with
    | plain c =>
      cases run₁
      have after' : Weighs loose d.slots height
          ((plain ++ [c]) ++ (pieces.flatMap Piece.text ++ rest)) b := by
        simpa [Piece.text] using after
      obtain ⟨w, le, result⟩ := ih each' before after' run₂
      exact ⟨w, le, by simpa using result⟩
    | arguments inner =>
      cases run₁
      refine enclose rfl fun u within => ?_
      have at' : (d.slots ++ [Slot.arguments inner])[d.slots.length]? = some (.arguments inner) :=
        List.getElem?_concat_length
      have closing : Weighs loose (d.slots ++ [.arguments inner]) (height + 1) [')'] 1 :=
        .char (fun same => absurd same (by decide)) .nil
      have key := Weighs.arguments at' (within.mono (List.prefix_append _ _)) closing
      exact ⟨_, by simp; omega, key.char (c := '(') fun same => absurd same (by decide)⟩
    | group inner =>
      obtain ⟨e, d₃, started, filled⟩ := bind_eq_ok.1 run₁
      cases filled
      refine enclose rfl fun u within => ?_
      have at' : (d₃.slots ++ [Slot.expr e])[d₃.slots.length]? = some (.expr e) :=
        List.getElem?_concat_length
      exact ⟨0, Nat.zero_le _, by simpa [placeholder] using Weighs.expr at' .nil⟩

end Pieces

/-- The fuel with which each step ends, for a text of a weight and a height. -/
structure Enough (tags : Option TagStore) (fuel : Nat) : Prop where
  start {slots height text weight} (weighs : Weighs False slots height text weight)
    (enough : 6 * weight + 2 * height + 4 ≤ fuel) : Ends slots (start tags fuel text)
  flatten {slots height pieces rest weight}
    (weighs : Weighs False slots height (pieces.flatMap Piece.text ++ rest) weight)
    (enough : 6 * weight + 2 * height + 3 ≤ fuel) : Ends slots (flatten tags fuel pieces) ∧
      ∀ d flat d', slots <+: d.slots → StateT.run (flatten tags fuel pieces) d = .ok (flat, d') →
        ∃ u ≤ weight, Weighs False d'.slots (height + 1) (flat ++ rest) u
  basic {slots height text weight} (weighs : Weighs False slots height text weight)
    (enough : 6 * weight + 2 * height + 1 ≤ fuel) : Ends slots (basic tags fuel text)
  arguments {slots height raw weight} (weighs : Weighs False slots height raw weight)
    (enough : 6 * weight + 2 * height + 6 ≤ fuel) : Ends slots (arguments tags fuel raw)
  argument {slots height item weight} (weighs : Weighs False slots height item weight)
    (enough : 6 * weight + 2 * height + 5 ≤ fuel) : Ends slots (argument tags fuel item)

namespace Enough

variable {fuel height weight : Nat} {text raw item : List Char} (all : Enough tags fuel)
include all

theorem start_step (weighs : Weighs False slots height text weight)
    (enough : 6 * weight + 2 * height + 4 ≤ fuel + 1) :
    Ends slots (Compile.start tags (fuel + 1) text) := by
  unfold Compile.start
  simp only []
  split
  · exact .reject _
  · split
    · exact .pure _
    · split
      · exact .pure _
      · obtain ⟨u, light, trimmed⟩ := weighs.sheds (sheds_trim text)
        obtain ⟨rest, lost, complete⟩ := sheds_piecesOf (Text.trim text)
        obtain ⟨v, light', pieces⟩ := trimmed.sheds lost
        obtain ⟨ends, result⟩ := all.flatten pieces (by omega)
        refine ends.bind fun flat d d' here run => ?_
        split
        · exact .reject _
        · exact .reject _
        · exact .reject _
        · next done =>
          obtain ⟨x, light'', weighs'⟩ := result d flat d' here run
          rw [complete done, List.append_nil] at weighs'
          exact all.basic weighs' (by omega)

theorem flatten_step {pieces : List Piece} {rest : List Char}
    (weighs : Weighs False slots height (pieces.flatMap Piece.text ++ rest) weight)
    (enough : 6 * weight + 2 * height + 3 ≤ fuel + 1) :
    Ends slots (Compile.flatten tags (fuel + 1) pieces) ∧
      ∀ d flat d', slots <+: d.slots →
        StateT.run (Compile.flatten tags (fuel + 1) pieces) d = .ok (flat, d') →
          ∃ u ≤ weight, Weighs False d'.slots (height + 1) (flat ++ rest) u := by
  have each : ∀ piece ∈ pieces, Ends slots (part tags fuel piece) := by
    intro piece mem
    cases piece with
    | plain c => exact .pure _
    | arguments inner => exact (Ends.fill _).then_ fun _ => .pure _
    | group inner =>
      obtain ⟨u, within, light⟩ := weighs.inside _ mem inner rfl
      exact (all.start within (by omega)).then_ fun e => .fill _
  rw [flatten_succ]
  refine ⟨(Ends.mapM each).then_ fun _ => .pure _, fun d flat d' here run => ?_⟩
  obtain ⟨parts, d₁, run₁, done⟩ := bind_eq_ok.1 run
  cases done
  have each' := fun piece mem => (each piece mem).mono here
  have weighs' : Weighs False d.slots height ([] ++ (pieces.flatMap Piece.text ++ rest)) weight :=
    weighs.mono here
  obtain ⟨u, light, result⟩ := Weighs.flat each' .nil weighs' run₁
  exact ⟨u, by omega, result⟩

theorem basic_step (weighs : Weighs False slots height text weight)
    (enough : 6 * weight + 2 * height + 1 ≤ fuel + 1) :
    Ends slots (Compile.basic tags (fuel + 1) text) := by
  unfold Compile.basic
  split
  · exact .reject _
  · split
    · next separator combine parts found =>
      obtain ⟨mem, rfl, several⟩ := combination?_eq_some found
      split
      · split <;> exact .reject _
      · have costs : (∀ c ∈ separator, ¬InPlaceholder c) ∧ 1 ≤ (separator.map cost).sum := by
          cases Combination.of_mem mem <;> decide
        have sign := (Combination.of_mem mem).separating
        obtain ⟨other, costs⟩ := costs
        rw [← joinWith_splitAt sign text] at weighs
        refine (Ends.mapM fun part mem => ?_).then_ fun _ => .pure _
        obtain ⟨u, weighs', -, light⟩ := weighs.parts sign.some other part mem
        obtain ⟨v, light', trimmed⟩ := weighs'.sheds (sheds_trim part)
        have := light several
        exact (all.basic trimmed (by omega)).then_ fun e => .of_local (.condition e)
    · split
      · next left function right found =>
        obtain ⟨operator, mem, -, -, rfl, -⟩ := comparison?_eq_some found
        have signs : ∀ p ∈ Builtin.comparisons, p.1 ≠ [] ∧ (∀ c ∈ p.1, ¬InPlaceholder c) ∧
            1 ≤ (p.1.map cost).sum := by
          decide
        obtain ⟨some, other, costs⟩ := signs _ mem
        obtain ⟨u, v, first, second, sum⟩ := weighs.cut some other
        have both := first.append (second.char (c := ',') fun same => absurd same (by decide))
        refine (all.arguments both ?_).then_ fun args => .of_local (.call ..)
        simp
        omega
      · split
        · next =>
          obtain ⟨u, v, first, second, sum⟩ := weighs.cut_at (s := []) (by decide)
          obtain ⟨x, light, trimmed⟩ := second.sheds (sheds_trim _)
          simp at sum
          exact (all.basic trimmed (by omega)).then_ fun e =>
            (Ends.of_local (.condition e)).then_ fun _ => .pure _
        · refine (Ends.slot? _).then_ fun slot => ?_
          split
          · exact .pure _
          · exact .reject _
          · exact .reject _
        · split
          · exact .reject _
          · next name key found =>
            obtain ⟨inner, rfl, -, -, rfl⟩ := named?_eq_some found
            obtain ⟨a, u, b, -, within, -, sum⟩ := weighs.parenthesis
            obtain ⟨v, light, trimmed⟩ := within.sheds (sheds_trim inner)
            refine Ends.lookup fun slot d here found => ?_
            split
            · next raw =>
              obtain ⟨below, rfl, x, light', behind⟩ := (trimmed.mono here).dereference found
              exact (all.arguments behind (by omega)).then_ fun args => .of_local (.call ..)
            · exact .reject _

theorem arguments_step (weighs : Weighs False slots height raw weight)
    (enough : 6 * weight + 2 * height + 6 ≤ fuel + 1) :
    Ends slots (Compile.arguments tags (fuel + 1) raw) := by
  unfold Compile.arguments
  simp only []
  split
  · exact .pure _
  · obtain ⟨u, light, trimmed⟩ := weighs.sheds (sheds_trim raw)
    refine .mapM fun item mem => ?_
    split
    · exact .reject _
    · obtain ⟨v, light', weighs'⟩ := trimmed.items item mem
      exact all.argument weighs' (by omega)

theorem argument_step (weighs : Weighs False slots height item weight)
    (enough : 6 * weight + 2 * height + 5 ≤ fuel + 1) :
    Ends slots (Compile.argument tags (fuel + 1) item) := by
  unfold Compile.argument
  split
  · exact .of_local (.literal item)
  · split
    · refine Ends.lookup fun slot d here found => ?_
      split
      · exact .pure _
      · next raw =>
        obtain ⟨below, rfl, u, light, behind⟩ := (weighs.mono here).dereference found
        refine (all.arguments behind (by omega)).then_ fun args => ?_
        split
        · exact .pure _
        · exact .reject _
      · exact .reject _
    · split
      · exact (all.start weighs (by omega)).then_ fun e => .pure _
      · exact .of_local (.word item)

end Enough

/-- With enough fuel every step ends. -/
theorem enough (tags : Option TagStore) (fuel : Nat) : Enough tags fuel := by
  induction fuel with
  | zero =>
    refine ⟨fun _ enough => ?_, fun _ enough => ?_, fun _ enough => ?_, fun _ enough => ?_,
      fun _ enough => ?_⟩ <;> omega
  | succ fuel ih =>
    exact ⟨ih.start_step, ih.flatten_step, ih.basic_step, ih.arguments_step, ih.argument_step⟩

/-- The fuel for a text is enough for a text without an opening brace. -/
theorem start_ends (tags : Option TagStore) {text : List Char} (plain : '{' ∉ text) :
    Ends [] (start tags (fuelFor text) text) := by
  obtain ⟨weight, short, weighs⟩ : ∃ weight ≤ Text.ink text, Weighs False [] 0 text weight :=
    Weighs.of_plain plain
  refine (enough tags _).start weighs ?_
  have twice : 8 * (Text.ink text + 2) * 2 ≤ fuelFor text :=
    Nat.mul_le_mul_left _ (Nat.le_add_left _ _)
  omega

/-- Compiling a text without an opening brace ends with an expression or an error, and the amount of
fuel has no part in which one it is. -/
theorem compile_terminates (tags : Option TagStore) (text : String) (plain : '{' ∉ text.toList) :
    ∃ outcome : Except CompileError (Expr × Draft),
      (∀ fuel, fuelFor text.toList ≤ fuel →
        StateT.run (start tags fuel text.toList) {} = outcome.mapError .rejected) ∧
      compile tags text =
        if Text.blank text.toList then .error .empty
        else outcome.bind fun (e, d) =>
          if e.kind = .bool then .ok (compiledOf e d) else .error (.notBoolean e.canonical) := by
  have ends := (start_ends tags plain {} (List.prefix_refl _)).1
  have steady (fuel : Nat) (more : fuelFor text.toList ≤ fuel) :
      StateT.run (start tags fuel text.toList) {} =
        StateT.run (start tags (fuelFor text.toList) text.toList) {} :=
    (outlasting_steps tags more).start text.toList {} ends
  cases started : StateT.run (start tags (fuelFor text.toList) text.toList) {} with
  | ok result =>
    obtain ⟨e, d⟩ := result
    refine ⟨.ok (e, d), fun fuel more => (steady fuel more).trans started, ?_⟩
    rw [compile, run_eq, started]
    cases Text.blank text.toList with
    | true => rfl
    | false =>
      simp only [Bool.false_eq_true, if_false, Except.bind]
      by_cases kind : e.kind = .bool
      · rw [if_pos kind, if_pos kind]
      · rw [if_neg kind, if_neg kind]
  | error failure =>
    cases failure with
    | exhausted => exact absurd started ends
    | rejected e =>
      refine ⟨.error e, fun fuel more => (steady fuel more).trans started, ?_⟩
      rw [compile, run_eq, started]
      cases Text.blank text.toList <;> rfl

/-- A text that is cut, flattened and read again has an outcome. -/
theorem compile_terminates_for_nested_calls :
    '{' ∉ "!(deviceid == h2s(1, (kbps < 3)))".toList ∧
      ∃ outcome : Except CompileError (Expr × Draft),
        (∀ fuel, fuelFor "!(deviceid == h2s(1, (kbps < 3)))".toList ≤ fuel →
          StateT.run (start none fuel "!(deviceid == h2s(1, (kbps < 3)))".toList) {} =
            outcome.mapError .rejected) ∧
        compile none "!(deviceid == h2s(1, (kbps < 3)))" =
          if Text.blank "!(deviceid == h2s(1, (kbps < 3)))".toList then .error .empty
          else outcome.bind fun (e, d) =>
            if e.kind = .bool then .ok (compiledOf e d) else .error (.notBoolean e.canonical) :=
  ⟨by decide, compile_terminates none _ (by decide)⟩

end Compile

end TagRules
