import TagRules.Proofs.Expr.Outside
import TagRules.Proofs.Expr.Steps

/-!
# The weight of a text

A text that compiling works on holds placeholders, and behind these stand texts with placeholders of
their own. `Weighs loose slots height s weight` weighs a text by its characters and by what stands
behind its placeholders, which lead from slot to slot at most `height` times. Blanks weigh nothing,
and neither do commas, so that a comparison loses weight when one takes the place of its operator.
No cut makes a text heavier.
-/

namespace TagRules

namespace Compile

/-- The characters of placeholders. -/
def InPlaceholder (c : Char) : Prop :=
  c = '{' ∨ c = '\x7d' ∨ Digits.isDigit c = true

instance (c : Char) : Decidable (InPlaceholder c) :=
  inferInstanceAs (Decidable (_ ∨ _))

theorem inPlaceholder_of_mem {n : Nat} {c : Char} (mem : c ∈ placeholder n) : InPlaceholder c := by
  simp only [placeholder, List.cons_append, List.mem_cons, List.mem_append, List.not_mem_nil,
    or_false] at mem
  rcases mem with rfl | digit | rfl
  · exact .inl rfl
  · exact .inr (.inr (List.all_eq_true.1 (Digits.all_isDigit_ofNat n) c digit))
  · exact .inr (.inl rfl)

/-- What is behind the placeholder that a text begins with. -/
theorem behind_placeholder {n : Nat} {c : Char} {s t r : List Char} (other : ¬InPlaceholder c)
    (form : s ++ c :: t = placeholder n ++ r) : ∃ s', s = placeholder n ++ s' ∧ s' ++ c :: t = r := by
  have all : ∀ d ∈ placeholder n, c ≠ d := by
    rintro d mem rfl
    exact other (inPlaceholder_of_mem mem)
  generalize placeholder n = front at all form
  induction front generalizing s with
  | nil => exact ⟨s, rfl, form⟩
  | cons d front ih =>
    cases s with
    | nil => exact absurd (List.cons.inj form).1 (all d List.mem_cons_self)
    | cons e s =>
      obtain ⟨rfl, after⟩ := List.cons.inj form
      obtain ⟨s', rfl, rest⟩ := ih (fun f mem => all f (List.mem_cons_of_mem _ mem)) after
      exact ⟨s', rfl, rest⟩

/-- The weight of a character. -/
def cost (c : Char) : Nat :=
  if c = ',' || Text.isBlank c then 0 else 1

@[simp] theorem cost_open : cost '(' = 1 := rfl

@[simp] theorem cost_close : cost ')' = 1 := rfl

@[simp] theorem cost_not : cost '!' = 1 := rfl

@[simp] theorem cost_comma : cost ',' = 0 := rfl

/-- The weight of a text with respect to slots. Braces outside of placeholders may be forbidden. -/
inductive Weighs (loose : Prop) (slots : List Slot) : Nat → List Char → Nat → Prop
  | nil {height} : Weighs loose slots height [] 0
  | char {height c s weight} (brace : c = '{' → loose) (rest : Weighs loose slots height s weight) :
    Weighs loose slots height (c :: s) (cost c + weight)
  | expr {height n e s weight} (at' : slots[n]? = some (.expr e))
    (rest : Weighs loose slots height s weight) :
    Weighs loose slots height (placeholder n ++ s) weight
  | arguments {height n raw s within weight} (at' : slots[n]? = some (.arguments raw))
    (behind : Weighs loose slots height raw within)
    (rest : Weighs loose slots (height + 1) s weight) :
    Weighs loose slots (height + 1) (placeholder n ++ s) (within + weight)

namespace Weighs

variable {loose : Prop} {slots slots' : List Slot} {height height' weight weight' : Nat}
  {s t sign : List Char}

theorem higher (h : Weighs loose slots height s weight) (le : height ≤ height') :
    Weighs loose slots height' s weight := by
  induction h generalizing height' with
  | nil => exact .nil
  | char brace _ ih => exact .char brace (ih le)
  | expr at' _ ih => exact .expr at' (ih le)
  | arguments at' _ _ ih ih' =>
    obtain ⟨height', rfl⟩ : ∃ k, height' = k + 1 := ⟨height' - 1, by omega⟩
    exact .arguments at' (ih (by omega)) (ih' le)

theorem mono (h : Weighs loose slots height s weight) (front : slots <+: slots') :
    Weighs loose slots' height s weight := by
  induction h with
  | nil => exact .nil
  | char brace _ ih => exact .char brace ih
  | expr at' _ ih => exact .expr (getElem?_mono front at') ih
  | arguments at' _ _ ih ih' => exact .arguments (getElem?_mono front at') ih ih'

theorem append (first : Weighs loose slots height s weight)
    (second : Weighs loose slots height t weight') :
    Weighs loose slots height (s ++ t) (weight + weight') := by
  induction first with
  | nil => rwa [List.nil_append, Nat.zero_add]
  | char brace _ ih =>
    rw [List.cons_append, Nat.add_assoc]
    exact .char brace (ih second)
  | expr at' _ ih =>
    rw [List.append_assoc]
    exact .expr at' (ih second)
  | arguments at' behind _ _ ih =>
    rw [List.append_assoc, Nat.add_assoc]
    exact .arguments at' behind (ih second)

/-- A text without placeholders is not heavier than its characters that are not blank. -/
theorem of_plain (brace : '{' ∈ s → loose) :
    ∃ weight ≤ Text.ink s, Weighs loose slots 0 s weight := by
  induction s with
  | nil => exact ⟨0, Nat.le_refl 0, .nil⟩
  | cons c s ih =>
    obtain ⟨weight, short, rest⟩ := ih fun mem => brace (List.mem_cons_of_mem _ mem)
    refine ⟨_, ?_, .char (fun same => brace (same ▸ List.mem_cons_self)) rest⟩
    rw [Text.ink_cons, cost]
    cases Text.isBlank c <;> by_cases comma : c = ',' <;> simp [comma] <;> omega

/-- A text is cut at a character that is not of a placeholder. -/
theorem cut_at {c : Char} (other : ¬InPlaceholder c)
    (h : Weighs loose slots height (s ++ c :: t) weight) : ∃ u v,
      Weighs loose slots height s u ∧ Weighs loose slots height t v ∧
        u + cost c + v = weight := by
  generalize form : s ++ c :: t = whole at h
  induction h generalizing s with
  | nil => cases List.append_ne_nil_of_right_ne_nil s (List.cons_ne_nil c t) form
  | char brace rest ih =>
    cases s with
    | nil =>
      obtain ⟨rfl, rfl⟩ := List.cons.inj form
      exact ⟨0, _, .nil, rest, by omega⟩
    | cons d s =>
      obtain ⟨rfl, after⟩ := List.cons.inj form
      obtain ⟨u, v, first, second, sum⟩ := ih after
      exact ⟨_, v, .char brace first, second, by omega⟩
  | expr at' _ ih =>
    obtain ⟨s, rfl, after⟩ := behind_placeholder other form
    obtain ⟨u, v, first, second, sum⟩ := ih after
    exact ⟨u, v, .expr at' first, second, sum⟩
  | arguments at' behind _ _ ih =>
    obtain ⟨s, rfl, after⟩ := behind_placeholder other form
    obtain ⟨u, v, first, second, sum⟩ := ih after
    exact ⟨_, v, .arguments at' behind first, second, by omega⟩

/-- A text is cut at a sign none of whose characters is of a placeholder. -/
theorem cut (some : sign ≠ []) (other : ∀ c ∈ sign, ¬InPlaceholder c)
    (h : Weighs loose slots height (s ++ (sign ++ t)) weight) : ∃ u v,
      Weighs loose slots height s u ∧ Weighs loose slots height t v ∧
        u + (sign.map cost).sum + v = weight := by
  induction sign generalizing s weight with
  | nil => exact absurd rfl some
  | cons c sign ih =>
    obtain ⟨u, v, first, second, sum⟩ := h.cut_at (other c List.mem_cons_self)
    rw [List.map_cons, List.sum_cons]
    cases sign with
    | nil => exact ⟨u, v, first, second, by simpa using sum⟩
    | cons d sign =>
      obtain ⟨u', v', first', second', sum'⟩ := ih (s := []) (List.cons_ne_nil d sign)
        (fun e mem => other e (List.mem_cons_of_mem _ mem)) second
      cases first'
      exact ⟨u, v', first, second', by omega⟩

/-- Each of several parts is as heavy as the whole at most, and lighter by a separator. -/
theorem parts {separator : List Char} {parts : List (List Char)} (some : separator ≠ [])
    (other : ∀ c ∈ separator, ¬InPlaceholder c)
    (h : Weighs loose slots height (joinWith separator parts) weight) :
    ∀ part ∈ parts, ∃ u, Weighs loose slots height part u ∧ u ≤ weight ∧
      (2 ≤ parts.length → u + (separator.map cost).sum ≤ weight) := by
  induction parts generalizing weight with
  | nil => exact fun _ mem => absurd mem List.not_mem_nil
  | cons first parts ih =>
    cases parts with
    | nil =>
      refine List.forall_mem_singleton.2 ⟨weight, h, Nat.le_refl _, fun several => ?_⟩
      simp at several
    | cons next parts =>
      rw [joinWith_cons _ _ (List.cons_ne_nil _ _), List.append_assoc] at h
      obtain ⟨u, v, front, back, sum⟩ := h.cut some other
      refine List.forall_mem_cons.2 ⟨⟨u, front, by omega, fun _ => by omega⟩, fun part mem => ?_⟩
      obtain ⟨x, weighs, light, -⟩ := ih back part mem
      exact ⟨x, weighs, by omega, fun _ => by omega⟩

/-- A text is not heavier without some of its blanks. -/
theorem sheds (h : Weighs loose slots height s weight) (lost : Sheds s t) :
    ∃ u ≤ weight, Weighs loose slots height t u := by
  induction h generalizing t with
  | nil =>
    cases lost
    exact ⟨0, Nat.le_refl 0, .nil⟩
  | char brace _ ih =>
    cases lost with
    | keep _ lost =>
      obtain ⟨u, light, rest⟩ := ih lost
      exact ⟨_, by omega, .char brace rest⟩
    | drop _ lost =>
      obtain ⟨u, light, rest⟩ := ih lost
      exact ⟨u, by omega, rest⟩
  | expr at' _ ih =>
    obtain ⟨t, rfl, after⟩ := lost.of_solid_append fun c mem => (placeholder_neutral _ c mem).2
    obtain ⟨u, light, rest⟩ := ih after
    exact ⟨u, light, .expr at' rest⟩
  | arguments at' behind _ _ ih =>
    obtain ⟨t, rfl, after⟩ := lost.of_solid_append fun c mem => (placeholder_neutral _ c mem).2
    obtain ⟨u, light, rest⟩ := ih after
    exact ⟨_, by omega, .arguments at' behind rest⟩

/-- The items of a list of arguments are not heavier than the list. -/
theorem items (h : Weighs loose slots height s weight) :
    ∀ item ∈ argumentsOf s, ∃ u ≤ weight, Weighs loose slots height item u := by
  intro item mem
  obtain ⟨v, light, joined⟩ := h.sheds (sheds_argumentsOf s)
  obtain ⟨u, weighs, light', -⟩ := joined.parts (List.cons_ne_nil _ _) (by decide) item mem
  exact ⟨u, Nat.le_trans light' light, weighs⟩

end Weighs

/-- Nothing but a placeholder begins with one and has a number. -/
theorem placeholder?_append {n m : Nat} {s : List Char}
    (h : placeholder? (placeholder n ++ s) = some m) : s = [] ∧ m = n := by
  rcases List.eq_nil_or_concat s with rfl | ⟨front, last, rfl⟩
  · rw [List.append_nil, placeholder?_placeholder] at h
    exact ⟨rfl, (Option.some.inj h).symm⟩
  · exfalso
    have form : placeholder n ++ (front ++ [last]) =
        '{' :: ((Digits.ofNat n ++ '\x7d' :: front) ++ [last]) := by
      simp [placeholder]
    have absent (digits : List Char) (inside : '\x7d' ∈ digits) : Digits.read? digits = none := by
      unfold Digits.read?
      rw [if_neg]
      rintro ⟨-, all⟩
      exact absurd (List.all_eq_true.1 all _ inside) (by decide)
    rw [List.concat_eq_append, form] at h
    simp only [placeholder?, List.getLast?_concat, List.dropLast_concat] at h
    split at h
    · split at h
      · next digits plus =>
        have inside : '\x7d' ∈ '+' :: digits := plus ▸ List.mem_append_right _ List.mem_cons_self
        rw [absent digits (by simpa using inside)] at h
        cases h
      · rw [absent _ (List.mem_append_right _ List.mem_cons_self)] at h
        cases h
    · cases h

namespace Weighs

variable {slots : List Slot} {height weight n : Nat} {key raw : List Char}

/-- What a placeholder of arguments stands for is not heavier than the placeholder. -/
theorem dereference (h : Weighs False slots height key weight)
    (found : (placeholder? key).bind (slots[·]?) = some (.arguments raw)) :
    ∃ below, height = below + 1 ∧ ∃ u ≤ weight, Weighs False slots below raw u := by
  obtain ⟨n, number, at'⟩ := Option.bind_eq_some_iff.1 found
  cases h with
  | nil => cases number
  | char brace rest =>
    simp only [placeholder?] at number
    split at number
    · next same =>
      cases same
      exact absurd rfl brace
    · cases number
  | expr at'' rest =>
    obtain ⟨-, rfl⟩ := placeholder?_append number
    rw [at''] at at'
    cases at'
  | arguments at'' behind rest =>
    obtain ⟨-, rfl⟩ := placeholder?_append number
    rw [at''] at at'
    cases at'
    exact ⟨_, rfl, _, Nat.le_add_right _ _, behind⟩

end Weighs

end Compile

end TagRules
