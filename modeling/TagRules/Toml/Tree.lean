import TagRules.Toml.Basic

/-!
# Trees of tables

A document that is being read is a tree that knows how each of its tables came about: a header may
not reopen a table that has one already, and a dotted key may set entries only in tables that dotted
keys made.
-/

namespace TagRules.Toml

/-- How a table came about. -/
inductive Origin where
  /-- On the way to a deeper header. -/
  | path
  | header
  | dotted
deriving DecidableEq, Repr

/-- A place in a document that is being read. -/
inductive Node where
  | value (t : Toml)
  | table (origin : Origin) (entries : List (String × Node))
  /-- The tables of an array of tables, newest first. -/
  | tables (items : List (List (String × Node)))

/-- The entries of a table. -/
abbrev Entries := List (String × Node)

/-- Put a value at a key, in place or at the end. -/
def putEntry (entries : List (String × α)) (key : String) (value : α) : List (String × α) :=
  if (entries.lookup key).isSome then
    entries.map fun (k, v) => if k == key then (k, value) else (k, v)
  else entries ++ [(key, value)]

/-- Change the table that a path of headers leads to. Missing tables are made; the newest table of
an array of tables is meant. -/
def descend (change : Entries → Option Entries) : List String → Entries → Option Entries
  | [], entries => change entries
  | key :: path, entries =>
    match entries.lookup key with
    | none => do
      let inner ← descend change path []
      return putEntry entries key (.table .path inner)
    | some (.table origin inner) => do
      let inner ← descend change path inner
      return putEntry entries key (.table origin inner)
    | some (.tables (newest :: older)) => do
      let newest ← descend change path newest
      return putEntry entries key (.tables (newest :: older))
    | _ => none

/-- Open the table of a header. -/
def openTable (key : String) (entries : Entries) : Option Entries :=
  match entries.lookup key with
  | none => some (putEntry entries key (.table .header []))
  | some (.table .path inner) => some (putEntry entries key (.table .header inner))
  | _ => none

/-- Begin a table of an array of tables. -/
def appendTable (key : String) (entries : Entries) : Option Entries :=
  match entries.lookup key with
  | none => some (putEntry entries key (.tables [[]]))
  | some (.tables items) => some (putEntry entries key (.tables ([] :: items)))
  | _ => none

/-- Set a dotted key. Its tables are made where they are missing; it may lead through tables on the
way to a header and through arrays of tables, but only tables of dotted keys take the entry. -/
def assign (value : Toml) : List String → Entries → Option Entries
  | [], _ => none
  | [key], entries =>
    match entries.lookup key with
    | none => some (putEntry entries key (.value value))
    | some _ => none
  | key :: next :: path, entries =>
    match entries.lookup key with
    | none => do
      let inner ← assign value (next :: path) []
      return putEntry entries key (.table .dotted inner)
    | some (.table .dotted inner) => do
      let inner ← assign value (next :: path) inner
      return putEntry entries key (.table .dotted inner)
    | some (.table .path inner) => do
      if path.isEmpty then none
      let inner ← assign value (next :: path) inner
      return putEntry entries key (.table .path inner)
    | some (.tables (newest :: older)) => do
      if path.isEmpty then none
      let newest ← assign value (next :: path) newest
      return putEntry entries key (.tables (newest :: older))
    | _ => none

mutual

/-- The value of a node. -/
def Node.toToml : Node → Toml
  | .value t => t
  | .table _ entries => .table (entriesToToml entries)
  | .tables items => .array (tablesToToml items).reverse

/-- The values of entries. -/
def entriesToToml : List (String × Node) → List (String × Toml)
  | [] => []
  | (key, node) :: rest => (key, node.toToml) :: entriesToToml rest

/-- The values of tables. -/
def tablesToToml : List (List (String × Node)) → List Toml
  | [] => []
  | entries :: rest => .table (entriesToToml entries) :: tablesToToml rest

end

end TagRules.Toml
