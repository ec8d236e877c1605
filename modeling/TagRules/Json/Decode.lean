import TagRules.Json.Basic

/-!
# Decoding JSON into typed values

A decoder takes a document to a value or refuses it. Decoders are strict: an integer is not read
from `1.0`, nothing but an option is read from `null`, and a record refuses a repeated member that
it knows. A record may also be written as an array of its members in declared order, the last ones
left out.
-/

namespace TagRules.Json

/-- A value of a type, or a refusal. -/
abbrev Decoder (α : Type) := Json → Option α

/-- A truth value. -/
def toBool? : Decoder Bool
  | .bool b => some b
  | _ => none

/-- A natural number below `2 ^ bits`. -/
def toNat? (bits : Nat) : Decoder Nat
  | .number (.whole n) => if 0 ≤ n ∧ n < Nat.pow 2 bits then some n.toNat else none
  | _ => none

/-- An integer of 64 bits. -/
def toInt? : Decoder Int
  | .number (.whole n) => if -(Nat.pow 2 63) ≤ n ∧ n < Nat.pow 2 63 then some n else none
  | _ => none

/-- A number in double precision; an integer is rounded to it. -/
def toDouble? : Decoder Double
  | .number (.whole n) => some (Double.ofInt n)
  | .number (.real x) => some x
  | _ => none

/-- A text. -/
def toString? : Decoder String
  | .string s => s
  | _ => none

/-- A list whose items are all accepted. -/
def toList? (decode : Decoder α) : Decoder (List α)
  | .array items => items.mapM decode
  | _ => none

/-- An optional value. -/
def toOption? (decode : Decoder α) : Decoder (Option α)
  | .null => some none
  | j => (decode j).map some

/-- One of several words, each also written as an object with that word as its only member and
`null` in it. -/
def toWord? (words : List (String × α)) : Decoder α
  | .string (some s) => (words.find? (·.1 == s)).map (·.2)
  | .object [(some s, .null)] => (words.find? (·.1 == s)).map (·.2)
  | _ => none

/-- The members of a record that are present, by name. -/
abbrev Members := List (String × Json)

/-- Split a record into its declared members. Others are dropped; a repeated one, or an array with
too many items, is refused. -/
def members? (names : List String) : Decoder Members
  | .object members => do
    let present ← members.filterMapM fun (name, value) => do
      let name ← name
      return if names.contains name then some (name, value) else none
    let keys := present.map (·.1)
    if keys.eraseDups.length = keys.length then some present else none
  | .array items => if items.length ≤ names.length then some (names.zip items) else none
  | _ => none

namespace Members

/-- A member that must be there. -/
def required (m : Members) (name : String) (decode : Decoder α) : Option α :=
  (m.lookup name).bind decode

/-- A member with a default. -/
def withDefault (m : Members) (name : String) (decode : Decoder α) (default : α) : Option α :=
  match m.lookup name with
  | none => some default
  | some j => decode j

end Members

end TagRules.Json
