import TagRules.Toml.Moment
import TagRules.Toml.Quoted
import TagRules.Toml.Tree

/-!
# Reading TOML text

A document is read line by line into a tree of tables. Reading steps return the text that follows.
Values are nested to a limited depth; the lists in them take fuel, one unit an item, and the length
of the text is enough.
-/

namespace TagRules.Toml

/-- The greatest number of arrays and inline tables within each other, and of parts of a key. -/
def maxDepth : Nat := 80

/-- A word that ends a plain value. -/
def isValueEnd (c : Char) : Bool :=
  c = ',' || c = ']' || c = '\x7d' || c = '#' || isBlank c || c = '\n' || c = '\r'

/-- A date and a time with a space between them. -/
def spacedMoment? (s : List Char) : Option (Moment × List Char) :=
  let date := s.takeWhile (!isValueEnd ·)
  match s.drop date.length with
  | ' ' :: rest =>
    let time := rest.takeWhile (!isValueEnd ·)
    (Moment.read? (date ++ ' ' :: time)).map (·, rest.drop time.length)
  | _ => none

/-- A plain value: a truth value, a number, or a date and a time. -/
def plain? (s : List Char) : Option (Toml × List Char) :=
  let word := s.takeWhile (!isValueEnd ·)
  let rest := s.drop word.length
  if word = "true".toList then some (.bool true, rest)
  else if word = "false".toList then some (.bool false, rest)
  else
    match integer? word, float? word, spacedMoment? s with
    | some n, _, _ => some (.integer n, rest)
    | none, some x, _ => some (.float x, rest)
    | none, none, some (m, rest) => some (.string m.write, rest)
    | none, none, none => (Moment.read? word).map fun m => (.string m.write, rest)

/-- The items of an array up to its closing bracket, given a reader of items and the items so far in
reverse. A comma may follow the last one. -/
def itemsFrom (item? : List Char → Option (Toml × List Char)) :
    Nat → List Toml → List Char → Option (Toml × List Char)
  | 0, _, _ => none
  | fuel + 1, done, s => do
    match ← skipLines s with
    | ']' :: s => return (.array done.reverse, s)
    | s =>
      let (item, s) ← item? s
      match ← skipLines s with
      | ',' :: s => itemsFrom item? fuel (item :: done) s
      | ']' :: s => return (.array (item :: done).reverse, s)
      | _ => none

/-- The entries of an inline table up to its closing brace, given a reader of values and the entries
so far. A comma may follow the last one, and lines may end wherever blanks may stand, but not within
a key. -/
def entriesFrom (value? : List Char → Option (Toml × List Char)) :
    Nat → Entries → List Char → Option (Toml × List Char)
  | 0, _, _ => none
  | fuel + 1, done, s => do
    match ← skipLines s with
    | '\x7d' :: s => return (.table (entriesToToml done), s)
    | s =>
      let (key, s) ← key? maxDepth s
      match ← skipLines s with
      | '=' :: s =>
        let (value, s) ← value? (← skipLines s)
        let done ← assign value key done
        match ← skipLines s with
        | ',' :: s => entriesFrom value? fuel done s
        | '\x7d' :: s => return (.table (entriesToToml done), s)
        | _ => none
      | _ => none

/-- A value with so many arrays and inline tables within each other at most, given fuel for each
list in it. -/
def value? (fuel : Nat) : Nat → List Char → Option (Toml × List Char)
  | depth, s =>
    match depth, s with
    | _, '"' :: _ => (string? s).map fun (t, s) => (.string t, s)
    | _, '\'' :: _ => (string? s).map fun (t, s) => (.string t, s)
    | depth + 1, '[' :: s => itemsFrom (value? fuel depth) fuel [] s
    | depth + 1, '\x7b' :: s => entriesFrom (value? fuel depth) fuel [] s
    | _, s => plain? s

/-- A key with its value on a line of its own. -/
def keyValue? (s : List Char) : Option ((List String × Toml) × List Char) := do
  let (key, s) ← key? maxDepth s
  match s with
  | '=' :: s =>
    let (value, s) ← value? s.length maxDepth (skipBlanks s)
    return ((key, value), s)
  | _ => none

/-- Read lines into a document, given the path of the last header. -/
def linesFrom : Nat → List String → Entries → List Char → Option Entries
  | 0, _, _, _ => none
  | fuel + 1, path, root, s => do
    match ← skipLines s with
    | [] => return root
    | '[' :: '[' :: s =>
      let (key, s) ← key? maxDepth s
      match s with
      | ']' :: ']' :: s =>
        let root ← descend (appendTable (key.getLastD "")) key.dropLast root
        linesFrom fuel key root (← endOfLine? s)
      | _ => none
    | '[' :: s =>
      let (key, s) ← key? maxDepth s
      match s with
      | ']' :: s =>
        let root ← descend (openTable (key.getLastD "")) key.dropLast root
        linesFrom fuel key root (← endOfLine? s)
      | _ => none
    | s =>
      let ((key, value), s) ← keyValue? s
      let root ← descend (assign value key) path root
      linesFrom fuel path root (← endOfLine? s)

/-- Drop a byte order mark. -/
def dropMark : List Char → List Char
  | '\ufeff' :: s => s
  | s => s

/-- Read a document. -/
def read? (s : List Char) : Option (List (String × Toml)) :=
  (linesFrom (s.length + 1) [] [] s).map entriesToToml

end TagRules.Toml
