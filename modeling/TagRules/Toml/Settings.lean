import TagRules.Toml.Reader

/-!
# Settings

A document with settings is read with its keys at the top as places: `a.b[1]` is the second item of
the array `b` in the table `a`. Setting a place makes the tables and arrays that lead to it; a table
is merged into the one that is there already, and any other value replaces what is there. A key that
names no place stands for itself.
-/

namespace TagRules.Toml

/-- A step into a value. -/
inductive Step where
  | key (name : String)
  /-- An item counted from the front, or from the end where the number is negative. -/
  | index (n : Int)
deriving DecidableEq, Repr

/-- A place in settings. -/
structure Place where
  root : String
  steps : List Step := []
deriving DecidableEq, Repr

/-- An index of 64 bits after its opening bracket, with the closing one. -/
def index? (s : List Char) : Option (Int × List Char) := do
  let (sign, s) :=
    match skipBlanks s with
    | '-' :: s => ((-1 : Int), s)
    | s => (1, s)
  let digits := s.takeWhile Digits.isDigit
  let n := sign * (← Digits.read? digits)
  if n < -(Nat.pow 2 63 : Int) ∨ (Nat.pow 2 63 : Int) ≤ n then none
  match skipBlanks (s.drop digits.length) with
  | ']' :: s => return (n, s)
  | _ => none

/-- The steps after the root of a place. Each takes a character, so that the length of the text is
enough fuel. -/
def stepsFrom : Nat → List Char → Option (List Step)
  | _, [] => some []
  | fuel + 1, '.' :: s => do
    let (name, s) ← bareKey? s
    return .key name :: (← stepsFrom fuel s)
  | fuel + 1, '[' :: s => do
    let (n, s) ← index? s
    return .index n :: (← stepsFrom fuel s)
  | _, _ => none

/-- The place that a key names. -/
def Place.ofKey (key : String) : Place :=
  let named : Option Place := do
    let (root, s) ← bareKey? key.toList
    return ⟨root, ← stepsFrom s.length s⟩
  named.getD ⟨key, []⟩

/-- The entries of a table; any other value has none. -/
def fields : Toml → List (String × Toml)
  | table entries => entries
  | _ => []

/-- The items of an array; any other value has none. -/
def items : Toml → List Toml
  | array items => items
  | _ => []

/-- The value of an entry. -/
def field (entries : List (String × Toml)) (key : String) : Toml :=
  (entries.lookup key).getD nothing

mutual

/-- Put a value in the place of another one: a table adds its entries, anything else replaces what
was there. -/
def merge (current : Toml) : Toml → Toml
  | table entries => table (mergeFields current.fields entries)
  | t => t

/-- Put entries among others. -/
def mergeFields (current : List (String × Toml)) : List (String × Toml) → List (String × Toml)
  | [] => current
  | (key, t) :: rest => mergeFields (putEntry current key (merge (field current key) t)) rest

end

/-- Items with one at an index, and its position. Items that are missing before it, or behind it
where it is counted from the end, are made. -/
def reach (items : List Toml) (n : Int) : List Toml × Nat :=
  if 0 ≤ n then
    (items ++ List.replicate (n.natAbs + 1 - items.length) nothing, n.natAbs)
  else
    (List.replicate (n.natAbs - items.length) nothing ++ items, items.length - n.natAbs)

/-- Set what some steps into a value lead to. -/
def setAt (t : Toml) : List Step → Toml → Toml
  | [], current => merge current t
  | .key name :: steps, current =>
    table (putEntry current.fields name (setAt t steps (field current.fields name)))
  | .index n :: steps, current =>
    let (items, position) := reach current.items n
    array (items.set position (setAt t steps (items.getD position nothing)))

/-- The settings of a document. -/
def settings (entries : List (String × Toml)) : Toml :=
  entries.foldl (fun all (key, t) =>
    let place := Place.ofKey key
    setAt t (.key place.root :: place.steps) all) (table [])

/-- Read settings. A file may begin with a byte order mark, and so may the document in it. -/
def readSettings? (text : String) : Option Toml :=
  (read? (dropMark (dropMark text.toList))).map settings

end TagRules.Toml
