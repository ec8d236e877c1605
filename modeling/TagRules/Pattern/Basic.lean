import TagRules.Text.Property

/-!
# Patterns

A pattern is a regular expression over characters. Repetitions keep their bounds, and an assertion
looks at the characters on either side of a place in the text. How a pattern is written is the
business of its reader; here is only what it means: `Pattern.Matches` is the relation between a
pattern, the neighbours of a piece of text and the piece.
-/

namespace TagRules

/-- A condition on the characters before and after a place. -/
inductive Assertion where
  | textStart
  | textEnd
  /-- Lines end with a line feed, or also with a carriage return. -/
  | lineStart (carriage : Bool)
  | lineEnd (carriage : Bool)
  /-- Words are made of letters and digits of all scripts, or of ASCII. -/
  | wordEdge (ascii : Bool)
  | notWordEdge (ascii : Bool)
  | wordStart (ascii : Bool)
  | wordEnd (ascii : Bool)
  | wordStartHalf (ascii : Bool)
  | wordEndHalf (ascii : Bool)
deriving DecidableEq, Repr

namespace Assertion

/-- ASCII letters, digits and the underscore. -/
def asciiWord : Text.Ranges :=
  .read "30-39 41-5A 5F 61-7A"

/-- The character is part of a word. -/
def isWord (ascii : Bool) (c : Option Char) : Bool :=
  match c with
  | none => false
  | some c => if ascii then asciiWord.contains c else Text.wordCharacters.contains c

/-- The condition is met between two neighbours, absent at the ends of the text. -/
def holds (before after : Option Char) : Assertion → Bool
  | textStart => before.isNone
  | textEnd => after.isNone
  | lineStart carriage =>
    before.isNone || before = some '\n' ||
      (carriage && before = some '\r' && after ≠ some '\n')
  | lineEnd carriage =>
    after.isNone || (carriage && after = some '\r') ||
      (after = some '\n' && !(carriage && before = some '\r'))
  | wordEdge ascii => isWord ascii before != isWord ascii after
  | notWordEdge ascii => isWord ascii before == isWord ascii after
  | wordStart ascii => !isWord ascii before && isWord ascii after
  | wordEnd ascii => isWord ascii before && !isWord ascii after
  | wordStartHalf ascii => !isWord ascii before
  | wordEndHalf ascii => !isWord ascii after

end Assertion

/-- A regular expression. -/
inductive Pattern where
  | empty
  | char (s : Text.Ranges)
  | assertion (a : Assertion)
  /-- A group that is remembered by its number. -/
  | group (index : Nat) (p : Pattern)
  | seq (p q : Pattern)
  | either (p q : Pattern)
  /-- At least `min` times and at most `max` times, where there is a largest number; as often as
  possible or as seldom as possible, which does not matter to what is matched. -/
  | repetition (p : Pattern) (min : Nat) (max : Option Nat) (greedy : Bool)
deriving DecidableEq, Repr

namespace Pattern

/-- The last character before a place that follows a piece of text. -/
def lastBefore (before : Option Char) (s : List Char) : Option Char :=
  s.getLast?.or before

/-- The first character at a place that a piece of text follows. -/
def firstAfter (s : List Char) (after : Option Char) : Option Char :=
  s.head?.or after

/-- `Matches before after p s`: the pattern matches the piece `s` that stands between `before` and
`after`. -/
inductive Matches : Option Char → Option Char → Pattern → List Char → Prop
  | empty {b a} : Matches b a .empty []
  | char {b a s c} (h : s.contains c = true) : Matches b a (.char s) [c]
  | assertion {b a e} (h : e.holds b a = true) : Matches b a (.assertion e) []
  | group {b a i p s} (h : Matches b a p s) : Matches b a (.group i p) s
  | seq {b a p q s t} (hp : Matches b (firstAfter t a) p s)
      (hq : Matches (lastBefore b s) a q t) : Matches b a (.seq p q) (s ++ t)
  | left {b a p q s} (h : Matches b a p s) : Matches b a (.either p q) s
  | right {b a p q s} (h : Matches b a q s) : Matches b a (.either p q) s
  | done {b a p max greedy} : Matches b a (.repetition p 0 max greedy) []
  | again {b a p s t min max greedy} (hm : max ≠ some 0) (hp : Matches b (firstAfter t a) p s)
      (hr : Matches (lastBefore b s) a (.repetition p (min - 1) (max.map (· - 1)) greedy) t) :
      Matches b a (.repetition p min max greedy) (s ++ t)

end Pattern

end TagRules
