import TagRules.Proofs.Expr.Comparison

/-!
# Operators without parentheses

Atoms are canonical conditions and comparisons of two amounts. Between atoms, `||` binds loosest,
then `&&`, then `^`, with any blanks around them; parts are combined in the order in which they
stand, and a part that stands alone is not combined.
-/

namespace TagRules

/-- The canonical text of a condition, or a comparison of two amounts. -/
inductive Atom : List Char → Expr → Prop
  | tree {e : Expr} (formed : e.Formed Operand.Canonical) (kind : e.kind = .bool) :
    Atom e.chars e.prepared
  | comparison {operator f left glue right a b} (mem : (operator, f) ∈ Builtin.comparisons)
    (first : Amount left a) (spaced : Spaced operator glue) (second : Amount right b) :
    Atom (left ++ glue ++ right) (.call f f.name [a, b] none)

/-- Atoms between `^`. -/
def Exclusion : List Char → Expr → Prop :=
  Tier ['^'] .xor Atom

/-- Exclusions between `&&`. -/
def Conjunction : List Char → Expr → Prop :=
  Tier ['&', '&'] .and Exclusion

/-- Conjunctions between `||`. -/
def Disjunction : List Char → Expr → Prop :=
  Tier ['|', '|'] .or Conjunction

namespace Compile

/-- A comparison of amounts is read. -/
theorem reads_comparison {operator left glue right : List Char} {f : Builtin} {a b : Operand}
    (mem : (operator, f) ∈ Builtin.comparisons) (first : Amount left a)
    (spaced : Spaced operator glue) (second : Amount right b) :
    Reads none (signs ['^']) (left ++ glue ++ right) (.call f f.name [a, b] none) := by
  have all : ∀ p ∈ Builtin.comparisons, p.1 ≠ [] ∧ p.2.result = .bool ∧
      (∀ c ∈ p.1, Ordinary c ∧ Text.isLetterOrDigit c = false) ∧
      ∃ c ∈ p.1, c ∈ ['(', '=', '<', '>'] := by
    decide
  obtain ⟨some, kind, plain, c, inside, sign⟩ := all _ mem
  have separates : Separates operator := ⟨some, plain⟩
  have flattened := first.flattened.append spaced separates second.flattened
    fun _ _ _ front holds => holds.mono front
  have left' := first.closed.inner.tight.ink_pos first.ne_nil
  have right' := second.closed.inner.tight.ink_pos second.ne_nil
  have glue' := spaced.ink_pos separates
  refine ⟨kind, ?_, first.closed.inner.tight.append first.ne_nil _ second.closed.inner.tight
    second.ne_nil, flattened.imp ?_⟩
  · obtain ⟨before, after, -, -, rfl⟩ := spaced
    exact ⟨c, by simp [inside], sign⟩
  · rintro flat slots ⟨left, right, rfl, holds, holds'⟩
    refine ⟨List.append_ne_nil_of_left_ne_nil holds.some _, unsigned mem holds holds',
      fun fuel d enough kept => ?_⟩
    simp only [Text.ink_append] at enough
    obtain ⟨fuel, rfl⟩ : ∃ k, fuel = k + 2 := ⟨fuel - 2, by omega⟩
    exact basic_comparison mem holds holds' first.numeric second.numeric (by omega) (by omega) kept

end Compile

/-- Every atom is read. -/
theorem Atom.reads {text : List Char} {e : Expr} (h : Atom text e) :
    Compile.Reads none (Compile.signs ['^']) text e := by
  cases h with
  | tree formed kind =>
    have formed := formed.imp fun _ => Operand.Canonical.legible
    exact (formed.inverts (Expr.testable_none _)).reads formed kind Compile.xor_mem
  | comparison mem first spaced second => exact Compile.reads_comparison mem first spaced second

/-- Atoms between operators are read as their combinations. -/
theorem Disjunction.reads {text : List Char} {e : Expr} (h : Disjunction text e) :
    Compile.Reads none [] text e := by
  refine Tier.reads Compile.or_mem (by decide) (fun text e h => ?_) h
  refine Tier.reads Compile.and_mem (by decide) (fun text e h => ?_) h
  exact Tier.reads Compile.xor_mem (by decide) (fun _ _ => Atom.reads) h

/-- A text has one reading. -/
theorem Disjunction.unique {text : List Char} {e e' : Expr} (h : Disjunction text e)
    (h' : Disjunction text e') : e = e' := by
  obtain ⟨c, compiled, rfl⟩ := h.reads.compiles
  obtain ⟨c', compiled', rfl⟩ := h'.reads.compiles
  rw [compiled] at compiled'
  cases compiled'
  rfl

/-- Operators bind in their order, and parts are combined in the order in which they stand. -/
theorem Disjunction.compiles_grouped {text : String} {e : Expr} (h : Disjunction text.toList e) :
    ∃ c, compile none text = .ok c ∧ c.expr = e := by
  obtain ⟨c, compiled, same⟩ := h.reads.compiles
  rw [String.ofList_toList] at compiled
  exact ⟨c, compiled, same⟩

/-- A comparison of a keyword in another spelling with a call, an exclusion of calls one of which
has an operator in its text, and a comparison of a number with a keyword. -/
def Expr.ranked : Expr :=
  .or [
    .and [
      .call .isGT "isGT"
        [.keyword .tagAge, .expr (.call .hoursToSeconds "h2s" [.number (.ofNat 36)] none)] none,
      .xor [.call .isPaused "isPaused" [] none, .call .hasTag "hasTag" [.text "a||b"] none]],
    .call .isLE "isLE" [.number (.ofNat 36), .keyword .size] none]

theorem Expr.ranked_disjunction :
    Disjunction "Tag_Age> h2s(36) && isPaused()^ hasTag(\"a||b\") || 36 <=size".toList ranked := by
  have spaced (sign before after : String) (blank : Text.blank before.toList = true)
      (blank' : Text.blank after.toList = true) :
      Spaced sign.toList (before.toList ++ sign.toList ++ after.toList) :=
    ⟨_, _, blank, blank', rfl⟩
  have hours : Amount "h2s(36)".toList
      (.expr (.call .hoursToSeconds "h2s" [.number (.ofNat 36)] none)) := by
    have formed : (Expr.call .hoursToSeconds "h2s" [.number (.ofNat 36)] none).Formed
        Operand.Canonical :=
      .call (by decide +kernel) rfl rfl trivial
        (List.forall_mem_singleton.2 (show Double.Writable _ by decide +kernel)) (by simp)
    have text : "h2s(36)".toList =
        (Expr.call .hoursToSeconds "h2s" [.number (.ofNat 36)] none).chars := by decide +kernel
    rw [text]
    exact .call formed rfl
  have late : Atom _ _ := .comparison (show (['>'], .isGT) ∈ Builtin.comparisons by decide)
    (.keyword (show Keyword.ofWord? "Tag_Age".toList = some .tagAge by decide +kernel) rfl)
    (spaced ">" "" " " rfl rfl) hours
  have paused : Atom (Expr.call .isPaused "isPaused" [] none).chars _ :=
    .tree (.call (by decide +kernel) rfl rfl trivial (by simp) (by simp)) rfl
  have tagged : Atom (Expr.call .hasTag "hasTag" [.text "a||b"] none).chars _ :=
    .tree (.call (by decide +kernel) rfl rfl trivial
      (List.forall_mem_singleton.2 ⟨by decide, by decide⟩) (by simp)) rfl
  have large : Atom _ _ := .comparison (show (['<', '='], .isLE) ∈ Builtin.comparisons by decide)
    (.of_writable (show Double.Writable (.ofNat 36) by decide +kernel))
    (spaced "<=" " " "" rfl rfl) (.of_keyword (show Keyword.isTextual .size = false by rfl))
  have first : Conjunction _ _ := ⟨_, .cons ⟨_, .one late, rfl⟩ (spaced "&&" " " " " rfl rfl)
    (.one ⟨_, .cons paused (spaced "^" "" " " rfl rfl) (.one tagged), rfl⟩), rfl⟩
  have second : Conjunction _ _ := ⟨_, .one ⟨_, .one large, rfl⟩, rfl⟩
  have whole : Disjunction _ _ :=
    ⟨_, .cons first (spaced "||" " " " " rfl rfl) (.one second), rfl⟩
  have read {text : List Char} (h : Disjunction text ranked)
      (same : text = "Tag_Age> h2s(36) && isPaused()^ hasTag(\"a||b\") || 36 <=size".toList) :
      Disjunction "Tag_Age> h2s(36) && isPaused()^ hasTag(\"a||b\") || 36 <=size".toList ranked :=
    same ▸ h
  exact read whole (by decide +kernel)

theorem Expr.ranked_compiles :
    Disjunction "Tag_Age> h2s(36) && isPaused()^ hasTag(\"a||b\") || 36 <=size".toList ranked ∧
      ∃ c, compile none "Tag_Age> h2s(36) && isPaused()^ hasTag(\"a||b\") || 36 <=size" = .ok c ∧
        c.expr = ranked :=
  ⟨ranked_disjunction, ranked_disjunction.compiles_grouped⟩

/-- A negated number is no atom, although the negation is a condition. -/
theorem Expr.not_countTag_or_refused :
    (Expr.call .countTag "countTag" [.text "x"] none).Formed Operand.Canonical ∧
      (Expr.not (.call .countTag "countTag" [.text "x"] none)).kind = .bool ∧
      Atom (Expr.call .isPaused "isPaused" [] none).chars (.call .isPaused "isPaused" [] none) ∧
      ∀ c, compile none (String.ofList
        ((Expr.not (.call .countTag "countTag" [.text "x"] none)).chars ++ " || ".toList ++
          (Expr.call .isPaused "isPaused" [] none).chars)) ≠ .ok c := by
  refine ⟨.call (by decide +kernel) rfl rfl trivial ?_ (by simp), rfl, ?_, fun c compiled => ?_⟩
  · exact List.forall_mem_singleton.2 ⟨by decide, by decide⟩
  · exact .tree (.call (by decide +kernel) rfl rfl trivial (by simp) (by simp)) rfl
  · have refused : (compile none (String.ofList
        ((Expr.not (.call .countTag "countTag" [.text "x"] none)).chars ++ " || ".toList ++
          (Expr.call .isPaused "isPaused" [] none).chars))).isOk = false := by
      decide +kernel
    rw [compiled] at refused
    cases refused

end TagRules
