import TagRules.Pattern.Basic

/-!
# Normal form of patterns

A pattern is put together by functions that keep it in a normal form: sequences and alternatives are
nested to the right and have no empty parts, alternatives that are single characters or sets become
one set, and parts that all alternatives begin with are taken out of them. The form does not change
what a pattern matches; it decides how large an automaton for the pattern is.
-/

namespace TagRules.Pattern

/-- The parts of a sequence, none of them empty. -/
def parts : Pattern → List Pattern
  | empty => []
  | seq p q => p.parts ++ q.parts
  | p => [p]

/-- Parts one after another. -/
def ofParts : List Pattern → Pattern
  | [] => .empty
  | [p] => p
  | p :: rest => .seq p (ofParts rest)

/-- The branches of alternatives. -/
def branches : Pattern → List Pattern
  | either p q => p.branches ++ q.branches
  | p => [p]

/-- Branches as alternatives. -/
def ofBranches : List Pattern → Pattern
  | [] => .char .none
  | [p] => p
  | p :: rest => .either p (ofBranches rest)

/-- Patterns one after another. -/
def sequence (ps : List Pattern) : Pattern :=
  ofParts (ps.flatMap parts)

/-- The set of a pattern that is one. -/
def charset? : Pattern → Option Text.Ranges
  | char s => some s
  | _ => none

/-- The only character that a pattern matches, if it is written as one. -/
def literal? (p : Pattern) : Option Char :=
  p.charset?.bind Text.Ranges.single?

/-- Put neighbouring single characters of a sequence together. -/
def words : List Pattern → List (List Pattern)
  | [] => []
  | p :: rest =>
    match words rest with
    | (q :: word) :: more =>
      if p.literal?.isSome && q.literal?.isSome then (p :: q :: word) :: more
      else [p] :: (q :: word) :: more
    | more => [p] :: more

/-- The longest common beginning of two lists. -/
def commonStart [DecidableEq α] : List α → List α → List α
  | a :: s, b :: t => if a = b then a :: commonStart s t else []
  | _, _ => []

/-- The parts that all branches begin with, and what is left of each branch. All branches have to be
sequences of at least two words. -/
def factor? (branches : List Pattern) : Option (List Pattern × List Pattern) :=
  match branches.map fun p => words p.parts with
  | [] => none
  | first :: rest =>
    let common := rest.foldl commonStart first
    if common.isEmpty || (first :: rest).any (·.length < 2) then none
    else
      let left := (first :: rest).map fun words => ofParts (words.drop common.length).flatten
      some (common.flatten, left)

/-- The alternatives of some patterns. Each turn of the recursion takes parts out of the branches,
so that their number is enough fuel. -/
def alternativesFrom : Nat → List Pattern → Pattern
  | fuel, ps =>
    let bs := ps.flatMap branches
    let sets := bs.filterMap charset?
    let singles := (bs.filterMap literal?).length
    if bs.length = 1 then ofBranches bs
    else if sets.length = bs.length ∧ (singles = 0 ∨ singles = bs.length) then
      .char (.unions sets)
    else
      match fuel, factor? bs with
      | fuel + 1, some (common, left) => ofParts (common ++ (alternativesFrom fuel left).parts)
      | _, _ => ofBranches bs

/-- The alternatives of some patterns. -/
def alternatives (ps : List Pattern) : Pattern :=
  alternativesFrom (ps.flatMap parts).length ps

/-- The pattern matches the empty piece at most. -/
def onlyEmpty : Pattern → Bool
  | empty => true
  | char _ => false
  | assertion _ => true
  | group _ p => p.onlyEmpty
  | seq p q => p.onlyEmpty && q.onlyEmpty
  | either p q => p.onlyEmpty && q.onlyEmpty
  | repetition p _ _ _ => p.onlyEmpty

/-- A pattern several times. What matches the empty piece at most need not be repeated, and neither
no turn nor one turn is a repetition. -/
def repeated (p : Pattern) (min : Nat) (max : Option Nat) (greedy : Bool) : Pattern :=
  let min := if p.onlyEmpty then Nat.min min 1 else min
  let max := if p.onlyEmpty then some (Nat.min (max.getD 1) 1) else max
  if max = some 0 then .empty
  else if min = 1 ∧ max = some 1 then p
  else .repetition p min max greedy

/-- The least number of characters that a pattern matches; none where one of its parts matches
nothing at all. -/
def leastLength : Pattern → Option Nat
  | empty => some 0
  | char s => if s.list.isEmpty then none else some 1
  | assertion _ => some 0
  | group _ p => p.leastLength
  | seq p q => p.leastLength.bind fun m => q.leastLength.map (m + ·)
  | either p q => p.leastLength.bind fun m => q.leastLength.map (Nat.min m)
  | repetition p min _ _ => p.leastLength.map (min * ·)

/-- Every match begins with an assertion. -/
def beginsWith (a : Assertion) : Pattern → Bool
  | empty => false
  | char _ => false
  | assertion b => a = b
  | group _ p => p.beginsWith a
  | seq p q => p.beginsWith a || (p.onlyEmpty && q.beginsWith a)
  | either p q => p.beginsWith a && q.beginsWith a
  | repetition p min _ _ => min ≠ 0 && p.beginsWith a

/-- Every match ends with an assertion. -/
def endsWith (a : Assertion) : Pattern → Bool
  | empty => false
  | char _ => false
  | assertion b => a = b
  | group _ p => p.endsWith a
  | seq p q => q.endsWith a || (q.onlyEmpty && p.endsWith a)
  | either p q => p.endsWith a && q.endsWith a
  | repetition p min _ _ => min ≠ 0 && p.endsWith a

end TagRules.Pattern
