import Std.Data.HashMap
import TagRules.Pattern.Form
import TagRules.Text.Utf8

/-!
# The size of patterns

A pattern is refused where an automaton for it would be too large. Two automata over the bytes of
UTF-8 are thought of, one that reads forward and one that reads backward, with counted repetitions
written out as copies. A tally says how large they are: states of one size, and the transitions that
some states list. Nothing but the tally is built, and the counting stops once the limit is passed.

A set of characters beyond ASCII is a small automaton of its own, whose states are shared where they
have the same transitions. What has been built is looked up in a table of limited size, in which a
later state takes the slot of an earlier one; so the size depends on the numbers of the states.
-/

namespace TagRules.Pattern

/-- How large an automaton is so far: its states, and the bytes of their lists of transitions. -/
structure Tally where
  states : Nat
  bytes : Nat
deriving DecidableEq, Repr

/-- The part of an automaton that a pattern adds. -/
abbrev Growth := Tally → Tally

/-- The bytes of a state. -/
def stateSize : Nat := 32

/-- The bytes of a transition for a range of bytes. -/
def edgeSize : Nat := 8

/-- The bytes of a transition that reads nothing. -/
def linkSize : Nat := 4

/-- The largest size of an automaton in bytes. -/
def sizeLimit : Nat := 10485760

namespace Tally

/-- The size in bytes. -/
def size (t : Tally) : Nat :=
  stateSize * t.states + t.bytes

/-- The limit is passed. -/
def tooLarge (t : Tally) : Bool :=
  sizeLimit < t.size

/-- Add states. -/
def addStates (n : Nat) (t : Tally) : Tally :=
  { t with states := t.states + n }

/-- Add transitions that read nothing. -/
def addLinks (n : Nat) (t : Tally) : Tally :=
  { t with bytes := t.bytes + linkSize * n }

/-- Add a state with transitions for ranges of bytes. -/
def addNode (edges : Nat) (t : Tally) : Tally :=
  { states := t.states + 1, bytes := t.bytes + edgeSize * edges }

end Tally

/-! ## Sets of characters -/

/-- Take a number into the hash of a sequence of numbers. -/
def mix (hash n : UInt64) : UInt64 :=
  UInt64.mul (UInt64.xor hash n) 1099511628211

/-- The hash of no numbers. -/
def mixStart : UInt64 := 14695981039346656037

/-- A transition for a range of bytes to a numbered state. -/
structure Edge where
  range : Text.ByteRange
  target : Nat
deriving DecidableEq

/-- The slot of a list of transitions in the table of states. -/
def slotOf (edges : List Edge) : Nat :=
  (UInt64.mod
    (edges.foldl (fun hash edge =>
      mix (mix (mix hash edge.range.1.toUInt64) edge.range.2.toUInt64) (UInt64.ofNat edge.target))
      mixStart)
    10000).toNat

/-- An automaton for a set that is being built, with the states that can be shared. -/
structure Sharing where
  tally : Tally
  known : Std.HashMap Nat (List Edge × Nat)

/-- The number of a state with given transitions, if it is found in its slot. -/
def Sharing.find? (s : Sharing) (slot : Nat) (edges : List Edge) : Option Nat :=
  match s.known[slot]? with
  | some (known, number) => if known = edges then some number else none
  | none => none

/-- A state with given transitions: one that is known, or a new one. -/
def Sharing.node (s : Sharing) (edges : List Edge) : Nat × Sharing :=
  let slot := slotOf edges
  match s.find? slot edges, s with
  | some number, s => (number, s)
  | none, ⟨tally, known⟩ =>
    (tally.states, ⟨tally.addNode edges.length, known.insert slot (edges, tally.states)⟩)

/-- A state whose transitions are not complete: the finished ones, last one first, and the range of
the one that leads on to the open states after it. -/
structure OpenNode where
  edges : List Edge
  last : Option Text.ByteRange

/-- Finish the last transition of an open state. -/
def OpenNode.finished (node : OpenNode) (target : Nat) : List Edge :=
  match node.last with
  | some range => ⟨range, target⟩ :: node.edges
  | none => node.edges

/-- Close open states, the last one first. Returns the first of them. -/
def closeNodes (final : Nat) : List OpenNode → Sharing → Nat × Sharing
  | [], s => (final, s)
  | node :: rest, s =>
    let (target, s) := closeNodes final rest s
    s.node (node.finished target).reverse

/-- Add a sequence to the open states, which stand for the sequence before it: what the two begin
with in common stays open, the rest is closed. -/
def addSequence (final : Nat) :
    List OpenNode → List Text.ByteRange → Sharing → List OpenNode × Sharing
  | node :: rest, range :: ranges, s =>
    if node.last = some range then
      let (rest, s) := addSequence final rest ranges s
      (node :: rest, s)
    else
      let (target, s) := closeNodes final rest s
      (⟨node.finished target, some range⟩ :: ranges.map fun range => ⟨[], some range⟩, s)
  | nodes, _, s => (nodes, s)

/-- The automaton that reads the bytes of a set forward: states are shared from the end. -/
def growForward (sequences : List (List Text.ByteRange)) : Growth := fun t =>
  let final := t.states
  let (nodes, s) := sequences.foldl (fun (nodes, s) ranges => addSequence final nodes ranges s)
    ([⟨[], none⟩], (⟨t.addStates 1, {}⟩ : Sharing))
  (closeNodes final nodes s).2.tally

/-- The slot of a transition in the table of states that read backward. -/
def backwardSlot (edge : Edge) : Nat :=
  (UInt64.mod
    (mix (mix (mix mixStart (UInt64.ofNat edge.target)) edge.range.1.toUInt64)
      edge.range.2.toUInt64)
    1000).toNat

/-- An automaton for a set that reads backward and is being built. -/
structure BackwardSharing where
  tally : Tally
  known : Std.HashMap Nat (Edge × Nat)

/-- The number of the state with a given transition, if it is found in its slot. -/
def BackwardSharing.find? (s : BackwardSharing) (slot : Nat) (edge : Edge) : Option Nat :=
  match s.known[slot]? with
  | some (known, number) => if known = edge then some number else none
  | none => none

/-- The state that reads a range before a given state: a known one, or a new one. -/
def BackwardSharing.node (s : BackwardSharing) (edge : Edge) : Nat × BackwardSharing :=
  let slot := backwardSlot edge
  match s.find? slot edge, s with
  | some number, s => (number, s)
  | none, ⟨tally, known⟩ =>
    (tally.states, ⟨tally.addStates 1, known.insert slot (edge, tally.states)⟩)

/-- The automaton that reads the bytes of a set backward: a choice of sequences, whose first bytes
are shared. -/
def growBackward (sequences : List (List Text.ByteRange)) : Growth := fun t =>
  let final := t.states + 1
  let start : BackwardSharing := ⟨t.addStates 2, {}⟩
  let add (s : BackwardSharing) (ranges : List Text.ByteRange) : BackwardSharing :=
    let (_, s) := ranges.foldl (fun (target, s) range => s.node ⟨range, target⟩) (final, s)
    { s with tally := s.tally.addLinks 1 }
  (sequences.foldl add start).tally

/-- The automaton of a set of ASCII characters: one state with a transition for each range, and one
where they end. -/
def growAscii (set : Text.Ranges) : Growth := fun t =>
  (t.addStates 1).addNode set.list.length

/-! ## Words -/

/-- The bytes of a pattern that is a word, a sequence of single characters. -/
def wordBytes? (p : Pattern) : Option (List UInt8) :=
  if p.parts.isEmpty then none
  else (p.parts.mapM literal?).map fun word => word.flatMap fun c => Text.utf8Bytes c.toNat

/-- Cut a list of words at the empty ones. -/
def cutAtEmpty : List (List UInt8) → List (List (List UInt8))
  | [] => [[]]
  | [] :: rest => [] :: cutAtEmpty rest
  | word :: rest =>
    match cutAtEmpty rest with
    | chunk :: more => (word :: chunk) :: more
    | [] => [[word]]

/-- The bytes that words begin with, each one once. -/
def firstBytes (words : List (List UInt8)) : List UInt8 :=
  (words.filterMap List.head?).eraseDups

/-- The tree of some words: a state for each list of bytes that may follow, and one that joins these
lists and the ends of words between them. Fuel is the length of the longest word. -/
def wordTree : Nat → List (List UInt8) → Growth
  | 0, _, t => t
  | fuel + 1, words, t =>
    let chunks := cutAtEmpty words
    let ends := (words.takeWhile List.isEmpty).length
    let allEnds := (words.filter List.isEmpty).length
    let t := chunks.foldl (fun t chunk =>
      let bytes := firstBytes chunk
      let t := bytes.foldl (fun t byte =>
        let rest := (chunk.filter (·.head? = some byte)).map List.tail
        if rest.all List.isEmpty then t else wordTree fuel rest t) t
      match bytes.length with
      | 0 => t
      | 1 => (t.addStates 1).addLinks 1
      | n => (t.addNode n).addLinks 1) t
    (t.addStates 1).addLinks (Nat.min ends 1 + (allEnds - ends))

/-- The automaton of a choice of words. -/
def growWords (words : List (List UInt8)) : Growth := fun t =>
  wordTree (words.foldl (fun n word => Nat.max n word.length) 0) words (t.addStates 1)

/-! ## Patterns -/

/-- A number of copies. -/
def copies (f : Growth) : Nat → Growth
  | 0, t => t
  | n + 1, t => if t.tooLarge then t else copies f n (f t)

/-- The copies of a repetition: a state and a choice for each turn that may be left out. Where the
number of turns has no bound, a body that can be empty takes two choices. -/
def growRepetition (body : Growth) (canBeEmpty : Bool) (min : Nat) (max : Option Nat) : Growth :=
  fun t =>
    match max with
    | none =>
      if min = 0 then
        if canBeEmpty then ((body t).addStates 3).addLinks 4
        else (body (t.addStates 1)).addLinks 2
      else ((copies body min t).addStates 1).addLinks 2
    | some max =>
      if min = 0 ∧ max = 1 then ((body (t.addStates 1)).addStates 1).addLinks 2
      else
        let t := if min = 0 then t.addStates 1 else copies body min t
        if max ≤ min then t
        else copies (fun t => (body (t.addStates 1)).addLinks 2) (max - min) (t.addStates 1)

/-- Branches side by side. -/
def growChoice : List Growth → Growth
  | [], t => t
  | [f], t => f t
  | f :: g :: rest, t =>
    rest.foldl (fun t h => (h t).addLinks 1) (((g (f t)).addStates 2).addLinks 2)

/-- The automata of the branches of a pattern. -/
def branchGrowths (backward : Bool) : Pattern → List Growth
  | empty => [Tally.addStates 1]
  | char s =>
    match s.single? with
    | some c => [Tally.addStates (Text.utf8Bytes c.toNat).length]
    | none =>
      if s.isAscii then [growAscii s]
      else
        let sequences := Text.utf8Sequences s.list
        [if backward then growBackward sequences else growForward sequences]
  | assertion _ => [Tally.addStates 1]
  | group _ p =>
    let body := whole p (p.branchGrowths backward)
    [if backward then body else fun t => (body (t.addStates 1)).addStates 1]
  | seq p q =>
    let first := whole p (p.branchGrowths backward)
    let second := whole q (q.branchGrowths backward)
    [if backward then fun t => first (second t) else fun t => second (first t)]
  | either p q => p.branchGrowths backward ++ q.branchGrowths backward
  | repetition p min max _ =>
    let body := whole p (p.branchGrowths backward)
    [growRepetition body (p.leastLength.all (· = 0)) min max]
where
  /-- The automaton of a pattern, given the ones of its branches. -/
  whole (p : Pattern) (growths : List Growth) : Growth :=
    match growths, p.branches.mapM wordBytes? with
    | _ :: _ :: _, some words =>
      growWords (if backward then words.map List.reverse else words)
    | growths, _ => growChoice growths

/-- The automaton of a pattern, with a loop in front that skips characters unless every match is at
the end of the text where reading begins. -/
def tally (backward : Bool) (p : Pattern) : Tally :=
  let anchored := if backward then p.endsWith .textEnd else p.beginsWith .textStart
  let start : Tally := if anchored then ⟨1, 0⟩ else ⟨3, edgeSize + 2 * linkSize⟩
  let body := branchGrowths.whole backward p (p.branchGrowths backward)
  if backward then (body start).addStates 1 else ((body (start.addStates 1)).addStates 2)

/-- The automata of a pattern keep the limit. -/
def fits (p : Pattern) : Bool :=
  !(p.tally false).tooLarge && !(p.tally true).tooLarge

end TagRules.Pattern
