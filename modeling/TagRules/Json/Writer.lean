import TagRules.Json.Basic
import TagRules.Number.Decimal

/-!
# Writing JSON text

Two layouts: on one line without blanks, and indented by two spaces with one item a line. Quotes,
backslashes and control characters are escaped, everything else is written as it is.
-/

namespace TagRules.Json

/-- A hexadecimal digit in lower case. -/
def hexChar (n : Nat) : Char :=
  if n < 10 then Digits.char n else Char.ofNat ('a'.toNat + n - 10)

/-- A character within a string. -/
def escaped (c : Char) : List Char :=
  match c with
  | '"' => ['\\', '"']
  | '\\' => ['\\', '\\']
  | '\n' => ['\\', 'n']
  | '\r' => ['\\', 'r']
  | '\t' => ['\\', 't']
  | '\x08' => ['\\', 'b']
  | '\x0c' => ['\\', 'f']
  | c =>
    if c.toNat < 0x20 then ['\\', 'u', '0', '0', hexChar (c.toNat / 16), hexChar (c.toNat % 16)]
    else [c]

/-- A text in quotes. -/
def quoted (s : String) : String :=
  String.ofList ('"' :: s.toList.flatMap escaped ++ ['"'])

/-- A number. -/
def numeral : Numeral → String
  | .whole n => String.ofList (Digits.ofInt n)
  | .real x => String.ofList x.toDecimal
  | .outOfRange => "null"

/-- How the parts of a document are set apart at a depth of nesting. -/
structure Layout where
  /-- What follows an opening bracket, and what follows a comma between items. -/
  breakAt : Nat → String
  /-- What stands between a name and its value. -/
  colon : String

/-- Everything on one line. -/
def Layout.compact : Layout :=
  ⟨fun _ => "", ":"⟩

/-- One item a line, indented by two spaces a level. -/
def Layout.indented : Layout :=
  ⟨fun depth => "\n" ++ String.ofList (List.replicate (2 * depth) ' '), ": "⟩

mutual

/-- The text of a document at a depth of nesting. -/
def render (layout : Layout) (depth : Nat) : Json → String
  | .null => "null"
  | .bool b => if b then "true" else "false"
  | .number n => numeral n
  | .string s => quoted (s.getD "")
  | .array [] => "[]"
  | .array items =>
    "[" ++ layout.breakAt (depth + 1) ++
      ("," ++ layout.breakAt (depth + 1)).intercalate (renderItems layout (depth + 1) items) ++
      layout.breakAt depth ++ "]"
  | .object [] => "\x7b\x7d"
  | .object members =>
    "\x7b" ++ layout.breakAt (depth + 1) ++
      ("," ++ layout.breakAt (depth + 1)).intercalate
        (renderMembers layout (depth + 1) members) ++
      layout.breakAt depth ++ "\x7d"

/-- The texts of the items of an array. -/
def renderItems (layout : Layout) (depth : Nat) : List Json → List String
  | [] => []
  | item :: items => render layout depth item :: renderItems layout depth items

/-- The texts of the members of an object. -/
def renderMembers (layout : Layout) (depth : Nat) : List (Option String × Json) → List String
  | [] => []
  | (name, value) :: members =>
    (quoted (name.getD "") ++ layout.colon ++ render layout depth value) ::
      renderMembers layout depth members

end

/-- The document on one line. -/
def compact (j : Json) : String :=
  render .compact 0 j

/-- The document indented. -/
def pretty (j : Json) : String :=
  render .indented 0 j

end TagRules.Json
