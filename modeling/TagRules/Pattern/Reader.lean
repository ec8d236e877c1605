import TagRules.Pattern.Bracket
import TagRules.Pattern.Form
import TagRules.Pattern.Size
import TagRules.Text.Letters

/-!
# Reading patterns

The notation of regular expressions: groups, alternatives, classes in brackets, counted repetitions,
flags, and escapes. What the notation lacks is refused: looking around, references back, and
assertions beyond the ones of `Assertion`; so are nesting deeper than `maxDepth` and patterns that
are too large to be searched with. Characters match regardless of case unless a flag says otherwise.

Each reading step returns the text that follows. The steps call each other with fuel, one unit a
call, and every call reads a character, so the length of the text is enough.
-/

namespace TagRules.Pattern

/-! ## Repetitions -/

/-- A number of a counted repetition with blanks around it, below `2 ^ 32`. -/
def readCount (f : Flags) (s : List Char) : Option (Nat × List Char) :=
  let (digits, rest) := f.takeWhile Digits.isDigit (s.dropWhile Text.isBlank)
  let n := Digits.value digits
  if digits.isEmpty || Nat.pow 2 32 ≤ n then none else some (n, rest.dropWhile Text.isBlank)

/-- The bounds of a counted repetition after its opening brace. -/
def readBounds (f : Flags) (s : List Char) : Option (Nat × Option Nat × List Char) := do
  let (min, s) ← readCount f (f.dropSpace s)
  match s with
  | '\x7d' :: rest => return (min, some min, rest)
  | ',' :: rest =>
    match f.dropSpace rest with
    | '\x7d' :: rest => return (min, none, rest)
    | rest =>
      let (max, rest) ← readCount f rest
      match rest with
      | '\x7d' :: rest => if min ≤ max then some (min, some max, rest) else none
      | _ => none
  | _ => none

/-- A question mark after a repetition, which asks for few turns where many are the rule. Returns
whether many are asked for. -/
def readGreed (f : Flags) (s : List Char) : Bool × List Char :=
  match s with
  | '?' :: rest => (f.swapGreed, rest)
  | s => (!f.swapGreed, s)

/-! ## Parts of a pattern -/

/-- A pattern, and how deep groups, repetitions, sequences, alternatives and classes are nested in
what it was read from. -/
structure Part where
  pattern : Pattern
  depth : Nat := 0

/-- An item of a sequence: a pattern, or a change of flags, which cannot be repeated. -/
inductive Item where
  | part (p : Part)
  | flags

/-- The depth of an item. -/
def Item.depth : Item → Nat
  | part p => p.depth
  | flags => 0

/-- The pattern of an item. -/
def Item.pattern : Item → Pattern
  | part p => p.pattern
  | flags => .empty

/-- The sequence of items that were read, last one first. -/
def Part.ofItems (items : List Item) : Part where
  pattern := sequence (items.reverse.map Item.pattern)
  depth := deepest (items.map Item.depth) + if 2 ≤ items.length then 1 else 0

/-- The alternatives that were read, last one first. -/
def Part.ofBranches (branches : List Part) : Part where
  pattern := alternatives (branches.reverse.map Part.pattern)
  depth := deepest (branches.map Part.depth) + if 2 ≤ branches.length then 1 else 0

/-- Repeat the last item. -/
def repeatLast (items : List Item) (min : Nat) (max : Option Nat) (greedy : Bool) :
    Option (List Item) :=
  match items with
  | .part p :: items =>
    some (.part ⟨repeated p.pattern min max greedy, p.depth + 1⟩ :: items)
  | _ => none

/-- A character, an escape, a dot or an anchor. -/
def readPrimitive (f : Flags) (s : List Char) : Option (Pattern × List Char) :=
  match s with
  | [] => none
  | '\\' :: rest => do
    match ← Escape.read f rest with
    | (.char c, rest) => return (.char (f.literal c), rest)
    | (.byte c, rest) =>
      if f.unicode || c.toNat < 0x80 then some (.char (f.literal c), rest) else none
    | (.set s, rest) => return (.char s, rest)
    | (.assertion a, rest) => return (.assertion a, rest)
  | '.' :: rest => if f.unicode then some (.char f.dot, rest) else none
  | '^' :: rest =>
    some (.assertion (if f.multiline then .lineStart f.carriage else .textStart), rest)
  | '$' :: rest =>
    some (.assertion (if f.multiline then .lineEnd f.carriage else .textEnd), rest)
  | c :: rest => some (.char (f.literal c), rest)

/-! ## Groups -/

/-- The name of a group up to a closing angle bracket: letters, digits, underscores, dots and square
brackets, a letter or an underscore first. -/
def readGroupName (s : List Char) : Option (List Char × List Char) :=
  let isFirst (c : Char) := c = '_' || Text.isLetter c
  let isNext (c : Char) :=
    c = '_' || c = '.' || c = '[' || c = ']' || Text.isLetterOrDigit c
  match s.takeWhile (· ≠ '>'), s.dropWhile (· ≠ '>') with
  | c :: rest, '>' :: after =>
    if isFirst c && rest.all isNext then some (c :: rest, after) else none
  | _, _ => none

/-- How a group is known: by its number alone, by a name too, or not at all. -/
inductive GroupKind where
  | numbered
  | named (name : List Char)
  | plain

/-- What stands after an opening parenthesis. -/
inductive GroupStart where
  | group (kind : GroupKind) (inner : Flags) (rest : List Char)
  | flags (f : Flags) (rest : List Char)

/-- Read what stands after an opening parenthesis. -/
def readGroupStart (f : Flags) (s : List Char) : Option GroupStart :=
  let named (rest : List Char) :=
    (readGroupName rest).map fun (name, rest) => GroupStart.group (.named name) f rest
  match f.dropSpace s with
  | '?' :: 'P' :: '<' :: rest => named rest
  | '?' :: '<' :: rest => named rest
  | '?' :: rest =>
    match f.readFrom true [] rest with
    | some (inner, written, ')' :: rest) => if written then some (.flags inner rest) else none
    | some (inner, _, ':' :: rest) => some (.group .plain inner rest)
    | _ => none
  | rest => some (.group .numbered f rest)

/-- The groups that were opened so far: how many of them have a number, and the names in use. -/
structure Groups where
  count : Nat := 0
  names : List (List Char) := []

/-- Open a group; no name may be used twice. -/
def Groups.add? (g : Groups) : GroupKind → Option Groups
  | .numbered => some { g with count := g.count + 1 }
  | .named name =>
    if g.names.contains name then none
    else some { count := g.count + 1, names := name :: g.names }
  | .plain => some g

/-- The pattern of a group that was opened with some groups before it. -/
def Groups.close (g : Groups) (kind : GroupKind) (p : Part) : Part :=
  match kind with
  | .plain => { p with depth := p.depth + 1 }
  | _ => { pattern := .group (g.count + 1) p.pattern, depth := p.depth + 1 }

/-- Where reading stands within a group: the flags, the groups so far, the finished branches and the
items of the current one. -/
structure Progress where
  flags : Flags := {}
  groups : Groups := {}
  branches : List Part := []
  items : List Item := []

namespace Progress

/-- End the current branch. -/
def branch (p : Progress) : Progress :=
  { p with branches := .ofItems p.items :: p.branches, items := [] }

/-- The pattern of a group that ends here. -/
def finish (p : Progress) : Part :=
  .ofBranches p.branch.branches

/-- Add a part. -/
def push (p : Progress) (q : Part) : Progress :=
  { p with items := .part q :: p.items }

/-- Change the flags for the rest of the group. -/
def setFlags (p : Progress) (f : Flags) : Progress :=
  { p with flags := f, items := .flags :: p.items }

/-- Repeat the last item; the text after the bounds may ask for few turns. -/
def repeatLast? (p : Progress) (min : Nat) (max : Option Nat) (s : List Char) :
    Option (Progress × List Char) :=
  let (greedy, rest) := readGreed p.flags s
  (repeatLast p.items min max greedy).map fun items => ({ p with items }, rest)

end Progress

/-- Read up to the end of the group, within as many others, or of the text where no group is open.
Returns the pattern, the groups so far and the text after the group. -/
def readGroup : Nat → Nat → Progress → List Char → Option (Part × Groups × List Char)
  | 0, _, _, _ => none
  | fuel + 1, level, p, s =>
    match p.flags.dropSpace s with
    | [] => if level = 0 then some (p.finish, p.groups, []) else none
    | ')' :: rest => if level = 0 then none else some (p.finish, p.groups, rest)
    | '|' :: rest => readGroup fuel level p.branch rest
    | '(' :: rest => do
      match ← readGroupStart p.flags rest with
      | .flags f rest => readGroup fuel level (p.setFlags f) rest
      | .group kind flags rest =>
        if maxDepth ≤ level then none
        let groups ← p.groups.add? kind
        let (q, groups, rest) ← readGroup fuel (level + 1) { flags, groups } rest
        readGroup fuel level { p.push (p.groups.close kind q) with groups } rest
    | '[' :: rest => do
      let (b, rest) ← Bracket.read p.flags rest
      readGroup fuel level (p.push ⟨.char b.members, b.depth⟩) rest
    | '*' :: rest => do
      let (p, rest) ← p.repeatLast? 0 none rest
      readGroup fuel level p rest
    | '+' :: rest => do
      let (p, rest) ← p.repeatLast? 1 none rest
      readGroup fuel level p rest
    | '?' :: rest => do
      let (p, rest) ← p.repeatLast? 0 (some 1) rest
      readGroup fuel level p rest
    | '\x7b' :: rest => do
      let (min, max, rest) ← readBounds p.flags rest
      let (p, rest) ← p.repeatLast? min max (p.flags.dropSpace rest)
      readGroup fuel level p rest
    | s => do
      let (pattern, rest) ← readPrimitive p.flags s
      readGroup fuel level (p.push { pattern }) rest

/-! ## Whole patterns -/

/-- Why a text is no pattern. -/
inductive Refusal where
  | malformed
  /-- The pattern is too large to be searched with. -/
  | tooLarge
deriving DecidableEq, Repr

/-- The first line of the wording. -/
def Refusal.message : Refusal → String
  | malformed => "regex parse error:"
  | tooLarge => "Compiled regex exceeds size limit of " ++ toString sizeLimit ++ " bytes."

/-- Read a pattern that matches regardless of case. -/
def read (source : String) : Except Refusal Pattern :=
  let s := source.toList
  match readGroup (s.length + 1) 0 {} s with
  | none => .error .malformed
  | some (p, _) =>
    if maxDepth < p.depth then .error .malformed
    else if p.pattern.fits then .ok p.pattern
    else .error .tooLarge

end TagRules.Pattern
