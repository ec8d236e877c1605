import TagRules.Pattern.Escape

/-!
# Classes in brackets

A class in brackets lists characters, ranges, escapes, classes with a name such as `[:alpha:]` and
classes within it. Lists may be joined by `&&` for the common members, `--` for the members of the
left one alone and `~~` for the members of exactly one, from left to right. The depth of a class
counts brackets, lists of two members or more and operations, each within the other.

Each reading step returns the text that follows. The steps call each other with fuel, one unit a
call, and every call reads a character, so the length of the text is enough.
-/

namespace TagRules.Pattern

open Text (Ranges)

/-- The greatest depth of nesting. -/
def maxDepth : Nat := 250

/-- The greatest of several depths. -/
def deepest (depths : List Nat) : Nat :=
  depths.foldl max 0

/-- A class that was read, and how deep it is nested. -/
structure Bracket where
  members : Ranges
  depth : Nat := 0

namespace Bracket

/-- The members of a list, last one first, as one class. -/
def ofItems (items : List Bracket) : Bracket where
  members := .unions (items.map members)
  depth := deepest (items.map depth) + if 2 ≤ items.length then 1 else 0

/-! ## Members -/

/-- What a member of a class may be: a character, which may begin a range, or a set. -/
inductive Member where
  | char (c : Char)
  | set (s : Ranges)

/-- One member of a class. -/
def readMember (f : Flags) (s : List Char) : Option (Member × List Char) :=
  match s with
  | [] => none
  | '\\' :: rest =>
    match Escape.read f rest with
    | some (.char c, rest) => some (.char c, rest)
    | some (.byte c, rest) => some (.char c, rest)
    | some (.set s, rest) => some (.set s, rest)
    | _ => none
  | c :: rest => some (.char c, rest)

/-- The characters of a range; beyond ASCII only with the flag for all scripts. -/
def range? (f : Flags) (first last : Char) : Option Ranges :=
  if last.toNat < first.toNat then none else f.allowed? ⟨[(first.toNat, last.toNat)]⟩

/-- The text after a hyphen begins with a closing bracket or another hyphen, so that the hyphen
makes no range. Blanks are passed over where they do not count, and one number sign with them. -/
def endsRange (f : Flags) (s : List Char) : Bool :=
  let s :=
    if f.verbose then
      match s.dropWhile Text.isBlank with
      | '#' :: rest => rest.dropWhile Text.isBlank
      | rest => rest
    else s
  match s with
  | c :: _ => c = ']' || c = '-'
  | [] => false

/-- A member of a class or a range of characters. -/
def readRange (f : Flags) (s : List Char) : Option (Ranges × List Char) := do
  let (first, rest) ← readMember f s
  let alone (rest : List Char) : Option (Ranges × List Char) :=
    match first with
    | .char c => (range? f c c).map (·, rest)
    | .set s => some (s, rest)
  match f.dropSpace rest with
  | [] => none
  | '-' :: after =>
    if endsRange f after then alone ('-' :: after)
    else
      let (last, rest) ← readMember f (f.dropSpace after)
      match first, last with
      | .char a, .char b => (range? f a b).map (·, rest)
      | _, _ => none
  | rest => alone rest

/-- The ASCII classes with a name. -/
def named? (name : String) : Option Ranges :=
  (table.lookup name).map Ranges.read
where
  /-- The names with the code points. -/
  table : List (String × String) :=
    [("alnum", "30-39 41-5A 61-7A"), ("alpha", "41-5A 61-7A"), ("ascii", "0-7F"),
      ("blank", "9 20"), ("cntrl", "0-1F 7F"), ("digit", "30-39"), ("graph", "21-7E"),
      ("lower", "61-7A"), ("print", "20-7E"), ("punct", "21-2F 3A-40 5B-60 7B-7E"),
      ("space", "9-D 20"), ("upper", "41-5A"), ("word", "30-39 41-5A 5F 61-7A"),
      ("xdigit", "30-39 41-46 61-66")]

/-- A class with a name after its opening bracket, such as `:alpha:]`, and whether it is negated.
What is none is left to be read as a class within the class. -/
def readNamed (s : List Char) : Option (Bool × Ranges × List Char) := do
  let (negated, s) ← match s with
    | ':' :: '^' :: rest => some (true, rest)
    | ':' :: rest => some (false, rest)
    | _ => none
  match s.dropWhile (· ≠ ':') with
  | ':' :: ']' :: rest =>
    let set ← named? (String.ofList (s.takeWhile (· ≠ ':')))
    return (negated, set, rest)
  | _ => none

/-! ## Lists -/

/-- An operation between lists. -/
inductive Operation where
  | inter
  | diff
  | symmDiff

/-- An operation on two sets. -/
def Operation.apply : Operation → Ranges → Ranges → Ranges
  | inter => Ranges.inter
  | diff => Ranges.diff
  | symmDiff => Ranges.symmDiff

/-- Where reading stands in a class: whether it is negated, the left operand of an operation that
waits for its right one, and the members of the current list, last one first. -/
structure Progress where
  negated : Bool
  pending : Option (Operation × Bracket) := none
  items : List Bracket := []

/-- The class that has been read so far. Operations take their operands regardless of case, where
case does not count. -/
def Progress.current (f : Flags) (p : Progress) : Bracket :=
  let right := ofItems p.items
  match p.pending with
  | none => right
  | some (operation, left) =>
    { members := operation.apply (f.fold left.members) (f.fold right.members)
      depth := max left.depth right.depth + 1 }

/-- The class that ends here. -/
def Progress.finish (f : Flags) (p : Progress) : Option Bracket :=
  let all := p.current f
  (f.close? p.negated all.members).map fun members => { members, depth := all.depth + 1 }

/-- Add a member to the current list. -/
def Progress.push (p : Progress) (b : Bracket) : Progress :=
  { p with items := b :: p.items }

/-- Begin the right operand of an operation. -/
def Progress.operate (f : Flags) (operation : Operation) (p : Progress) : Progress :=
  { p with pending := some (operation, p.current f), items := [] }

/-- The beginning of a class after its opening bracket: a negation, then hyphens, or a closing
bracket, that stand for themselves. -/
def readStart (f : Flags) (s : List Char) : Progress × List Char :=
  match f.dropSpace s with
  | '^' :: rest => literals true (f.dropSpace rest)
  | s => literals false s
where
  /-- Read hyphens, or a closing bracket. -/
  literals (negated : Bool) (s : List Char) : Progress × List Char :=
    match f.takeWhile (· = '-') s with
    | ([], ']' :: rest) => ({ negated, items := [{ members := .single ']' }] }, rest)
    | (hyphens, rest) =>
      ({ negated, items := hyphens.map fun c => { members := .single c } }, rest)

/-- The rest of a class up to its closing bracket, within as many others. -/
def readRest (f : Flags) : Nat → Nat → Progress → List Char → Option (Bracket × List Char)
  | 0, _, _, _ => none
  | fuel + 1, level, p, s =>
    match f.dropSpace s with
    | [] => none
    | ']' :: rest => (p.finish f).map (·, rest)
    | '[' :: rest =>
      match readNamed rest with
      | some (negated, set, rest) => do
        let members ← f.close? negated set
        readRest f fuel level (p.push { members }) rest
      | none =>
        if maxDepth ≤ level then none
        else do
          let (inner, rest) := readStart f rest
          let (b, rest) ← readRest f fuel (level + 1) inner rest
          readRest f fuel level (p.push b) rest
    | '&' :: '&' :: rest => readRest f fuel level (p.operate f .inter) rest
    | '-' :: '-' :: rest => readRest f fuel level (p.operate f .diff) rest
    | '~' :: '~' :: rest => readRest f fuel level (p.operate f .symmDiff) rest
    | s => do
      let (members, rest) ← readRange f s
      readRest f fuel level (p.push { members }) rest

/-- A class after its opening bracket. -/
def read (f : Flags) (s : List Char) : Option (Bracket × List Char) :=
  let (start, rest) := readStart f s
  readRest f (rest.length + 1) 0 start rest

end Bracket

end TagRules.Pattern
