import Std.Data.HashMap
import TagRules.Pattern.Basic

/-!
# Searching with patterns

`Pattern.after` gives the patterns that may follow once a character is read (partial derivatives).
A search reads the text once, with the set of patterns that are still open at each place, and starts
afresh at every place; it succeeds where an open pattern may end.
-/

namespace TagRules.Pattern

/-- The pattern matches the empty piece between two neighbours. -/
def matchesEmpty (before after : Option Char) : Pattern → Bool
  | empty => true
  | char _ => false
  | assertion a => a.holds before after
  | group _ p => p.matchesEmpty before after
  | seq p q => p.matchesEmpty before after && q.matchesEmpty before after
  | either p q => p.matchesEmpty before after || q.matchesEmpty before after
  | repetition p min max _ => min = 0 || (max ≠ some 0 && p.matchesEmpty before after)

/-- Sequence, where an empty pattern in front disappears. -/
def followedBy (p q : Pattern) : Pattern :=
  match p with
  | empty => q
  | p => .seq p q

/-- The patterns for what may follow after a character at a place. Where the body of a repetition
matches the empty piece, empty turns can make up for the least number of turns. -/
def after (before : Option Char) (c : Char) : Pattern → List Pattern
  | empty => []
  | char s => if s.contains c then [.empty] else []
  | assertion _ => []
  | group _ p => p.after before c
  | seq p q =>
    let first := (p.after before c).map (·.followedBy q)
    if p.matchesEmpty before (some c) then first ++ q.after before c else first
  | either p q => p.after before c ++ q.after before c
  | repetition p min max greedy =>
    if max = some 0 then []
    else
      let min := if p.matchesEmpty before (some c) then 0 else min - 1
      (p.after before c).map (·.followedBy (.repetition p min (max.map (· - 1)) greedy))

/-- A number that tells most patterns apart by what is outermost in them, to a given depth. -/
def shape : Nat → Pattern → UInt64
  | 0, _ => 0
  | _ + 1, empty => 1
  | _ + 1, char s => mixHash 2 (hash s.list.head?)
  | _ + 1, assertion _ => 3
  | depth + 1, group i p => mixHash (hash i) (p.shape depth)
  | depth + 1, seq p q => mixHash (p.shape depth) (q.shape depth)
  | depth + 1, either p q => mixHash 4 (mixHash (p.shape depth) (q.shape depth))
  | depth + 1, repetition p min max _ =>
    mixHash (mixHash (hash min) (hash max)) (p.shape depth)

instance : Hashable Pattern where
  hash := shape 6

/-- The patterns of a list that have not been seen, each one once. -/
def distinctFrom (seen : Std.HashMap Pattern Unit) : List Pattern → List Pattern
  | [] => []
  | p :: rest =>
    if seen.contains p then distinctFrom seen rest
    else p :: distinctFrom (seen.insert p ()) rest

/-- The patterns of a list, each one once. -/
def distinct (ps : List Pattern) : List Pattern :=
  distinctFrom {} ps

theorem mem_distinctFrom {p : Pattern} {seen : Std.HashMap Pattern Unit} {ps : List Pattern} :
    p ∈ distinctFrom seen ps ↔ p ∈ ps ∧ seen.contains p = false := by
  induction ps generalizing seen with
  | nil => simp [distinctFrom]
  | cons q rest ih =>
    unfold distinctFrom
    split
    · rename_i h
      rw [ih, List.mem_cons]
      constructor
      · exact fun ⟨hp, hs⟩ => ⟨.inr hp, hs⟩
      · rintro ⟨rfl | hp, hs⟩
        · simp [h] at hs
        · exact ⟨hp, hs⟩
    · rename_i h
      rw [List.mem_cons, ih, List.mem_cons, Std.HashMap.contains_insert]
      by_cases hq : p = q
      · subst hq
        simpa using h
      · simp [hq, Ne.symm hq]

@[simp] theorem mem_distinct {p : Pattern} {ps : List Pattern} : p ∈ distinct ps ↔ p ∈ ps := by
  simp [distinct, mem_distinctFrom]

/-- Search from a place with some open patterns. -/
def searchFrom (p : Pattern) (before : Option Char) (opened : List Pattern) :
    List Char → Bool
  | [] => (p :: opened).any (·.matchesEmpty before none)
  | c :: rest =>
    let opened := p :: opened
    opened.any (·.matchesEmpty before (some c)) ||
      searchFrom p (some c) (distinct (opened.flatMap (·.after before c))) rest

/-- The pattern matches some piece of the text. -/
def search (p : Pattern) (text : String) : Bool :=
  searchFrom p none [] text.toList

end TagRules.Pattern
