import TagRules.Number.Digits
import TagRules.Pattern.Basic
import TagRules.Pattern.Flags
import TagRules.Text.PropertyName

/-!
# Escapes

What follows a backslash in a pattern: a character that would otherwise have a meaning of its own, a
code point in hexadecimal, a class of characters that is known by a letter or by a property, or an
assertion. A digit is refused, since there are no references back.
-/

namespace TagRules.Pattern

open Text (Ranges)

/-- What an escape stands for. -/
inductive Escape where
  | char (c : Char)
  /-- A byte written with two hexadecimal digits. -/
  | byte (c : Char)
  | set (s : Ranges)
  | assertion (a : Assertion)

namespace Escape

/-- An ASCII letter. -/
def isLetter (c : Char) : Bool :=
  ('A' ≤ c && c ≤ 'Z') || ('a' ≤ c && c ≤ 'z')

/-- The characters that stand for themselves after a backslash: ASCII without letters, digits and
angle brackets. -/
def isEscapable (c : Char) : Bool :=
  c.toNat < 0x80 && !(isLetter c || Digits.isDigit c || c = '<' || c = '>')

/-- The value of a hexadecimal digit. -/
def hexValue? (c : Char) : Option Nat :=
  if Digits.isDigit c then some (Digits.digit c)
  else if 'a' ≤ c && c ≤ 'f' then some (c.toNat - 'a'.toNat + 10)
  else if 'A' ≤ c && c ≤ 'F' then some (c.toNat - 'A'.toNat + 10)
  else none

/-- The character of a code point written in hexadecimal digits. -/
def ofHex? (digits : List Char) : Option Char := do
  let values ← digits.mapM hexValue?
  if values.isEmpty then none
  let n := values.foldl (fun n d => 16 * n + d) 0
  if n < 0xD800 ∨ (0xE000 ≤ n ∧ n < 0x110000) then some (Char.ofNat n) else none

/-- A code point in hexadecimal: digits of a fixed number, or any number of them in braces. -/
def readHex (f : Flags) (width : Nat) (s : List Char) : Option (Escape × List Char) :=
  match f.dropSpace s with
  | '\x7b' :: rest => do
    let (digits, rest) ← f.readBraced rest
    let c ← ofHex? digits
    return (.char c, rest)
  | rest => do
    let (digits, rest) ← f.takeExactly width rest
    let c ← ofHex? digits
    return (if width = 2 then .byte c else .char c, rest)

/-- What stands before and after the first place where a sign is written. -/
def cut? (sign : List Char) : List Char → Option (List Char × List Char)
  | [] => none
  | c :: rest =>
    if sign.isPrefixOf (c :: rest) then some ([], (c :: rest).drop sign.length)
    else (cut? sign rest).map fun (before, after) => (c :: before, after)

/-- The characters with a property, and whether the ones without it are meant: `name`, `name:value`,
`name=value` or `name!=value`. -/
def property? (s : List Char) : Option (Ranges × Bool) :=
  match cut? ['!', '='] s with
  | some (name, value) => (Text.propertyValue? name value).map (·, true)
  | none =>
    match (cut? [':'] s).or (cut? ['='] s) with
    | some (name, value) => (Text.propertyValue? name value).map (·, false)
    | none => (Text.property? s).map (·, false)

/-- A property after `\p` or `\P`: one letter, or more in braces. -/
def readProperty (f : Flags) (negated : Bool) (s : List Char) : Option (Ranges × List Char) := do
  if !f.unicode then none
  let (name, rest) ← match f.dropSpace s with
    | '\x7b' :: rest => f.readBraced rest
    | c :: rest => if c = '\\' then none else some ([c], rest)
    | [] => none
  let (members, unequal) ← property? name
  let set ← f.close? (negated != unequal) members
  return (set, rest)

/-- A word boundary, or one side of it with a name in braces. What is no name is left to be read as
a repetition. -/
def readWordEdge (f : Flags) (s : List Char) : Option (Assertion × List Char) :=
  let ascii := !f.unicode
  let isNamed (c : Char) := isLetter c || c = '-'
  match s with
  | '\x7b' :: rest =>
    match f.dropSpace rest with
    | [] => none
    | c :: _ =>
      if !isNamed c then some (.wordEdge ascii, s)
      else
        match f.takeWhile isNamed rest with
        | (name, '\x7d' :: rest) =>
          match String.ofList name with
          | "start" => some (.wordStart ascii, rest)
          | "end" => some (.wordEnd ascii, rest)
          | "start-half" => some (.wordStartHalf ascii, rest)
          | "end-half" => some (.wordEndHalf ascii, rest)
          | _ => none
        | _ => none
  | _ => some (.wordEdge ascii, s)

/-- The classes known by a letter, for all scripts or for ASCII. -/
def letterClass? (unicode : Bool) (c : Char) : Option Ranges :=
  match c with
  | 'd' => some (if unicode then Text.decimalDigits else .read "30-39")
  | 's' => some (if unicode then Text.blanks else .read "9-D 20")
  | 'w' => some (if unicode then Text.wordCharacters else Assertion.asciiWord)
  | _ => none

/-- The escapes of a letter that stand for one character. -/
def control? (c : Char) : Option Char :=
  match c with
  | 'a' => some '\x07'
  | 'f' => some '\x0c'
  | 't' => some '\t'
  | 'n' => some '\n'
  | 'r' => some '\r'
  | 'v' => some '\x0b'
  | _ => none

/-- The assertions known by one character. -/
def assertion? (f : Flags) (c : Char) : Option Assertion :=
  match c with
  | 'A' => some .textStart
  | 'z' => some .textEnd
  | 'B' => some (.notWordEdge !f.unicode)
  | '<' => some (.wordStart !f.unicode)
  | '>' => some (.wordEnd !f.unicode)
  | _ => none

/-- What follows a backslash. -/
def read (f : Flags) (s : List Char) : Option (Escape × List Char) :=
  match s with
  | [] => none
  | 'x' :: rest => readHex f 2 rest
  | 'u' :: rest => readHex f 4 rest
  | 'U' :: rest => readHex f 8 rest
  | 'p' :: rest => (readProperty f false rest).map fun (s, rest) => (.set s, rest)
  | 'P' :: rest => (readProperty f true rest).map fun (s, rest) => (.set s, rest)
  | 'b' :: rest => (readWordEdge f rest).map fun (a, rest) => (.assertion a, rest)
  | c :: rest =>
    let class? := letterClass? f.unicode c
    let complement? := (letterClass? f.unicode c.toLower).map Ranges.compl
    match class?.or complement?, control? c, assertion? f c with
    | some s, _, _ => (f.allowed? s).map fun s => (.set s, rest)
    | none, some c, _ => some (.char c, rest)
    | none, none, some a => some (.assertion a, rest)
    | none, none, none => if isEscapable c then some (.char c, rest) else none

end Escape

end TagRules.Pattern
