import TagRules.Number.Double

/-!
# JSON documents

A document keeps the order of its members and their repetitions, since what reads it may refuse a
repeated member. Two defects are kept in the tree, because they only matter to who looks at them: a
string with a lone surrogate has no text, and a number may be out of range.
-/

namespace TagRules

/-- A number as written: an integer of at most 64 bits, a number in double precision, or one that is
too large for it. -/
inductive Numeral where
  | whole (n : Int)
  | real (x : Double)
  | outOfRange
deriving DecidableEq, Repr, Inhabited

/-- A JSON document. A text is absent where an escape in it is a lone surrogate. -/
inductive Json where
  | null
  | bool (b : Bool)
  | number (n : Numeral)
  | string (s : Option String)
  | array (items : List Json)
  | object (members : List (Option String × Json))
deriving Inhabited

namespace Json

/-- A text. -/
def text (s : String) : Json :=
  .string (some s)

/-- An integer. -/
def int (n : Int) : Json :=
  .number (.whole n)

/-- An object with the given members. -/
def record (members : List (String × Json)) : Json :=
  .object (members.map fun (name, value) => (some name, value))

/-- An optional value, `null` where it is absent. -/
def optional (encode : α → Json) : Option α → Json
  | none => .null
  | some a => encode a

/-- The first member of that name. -/
def get? (j : Json) (name : String) : Option Json :=
  match j with
  | .object members => (members.find? fun m => m.1 == some name).map (·.2)
  | _ => none

end Json

end TagRules
