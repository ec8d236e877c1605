import TagRules.Toml.Number

/-!
# Strings, keys and line ends in documents

Strings stand in double quotes, where a backslash begins an escape, or in single quotes, where it
does not; three quotes hold a string on several lines. Reading steps return the text that follows.
-/

namespace TagRules.Toml

/-! ## Blanks and line ends -/

/-- A space or a tab. -/
def isBlank (c : Char) : Bool :=
  c = ' ' || c = '\t'

/-- Drop spaces and tabs. -/
def skipBlanks (s : List Char) : List Char :=
  s.dropWhile isBlank

/-- A character that may stand in a comment or a string. -/
def isPrintable (c : Char) : Bool :=
  c = '\t' || (0x20 ≤ c.toNat && c.toNat ≠ 0x7F)

/-- A line break in front of a text, and what follows it. -/
def lineBreak? : List Char → Option (List Char × List Char)
  | '\n' :: s => some (['\n'], s)
  | '\r' :: '\n' :: s => some (['\r', '\n'], s)
  | _ => none

/-- Drop blanks, comments and line breaks, possibly from within a comment on. -/
def skipLinesFrom : Bool → List Char → Option (List Char)
  | _, [] => some []
  | _, '\n' :: s => skipLinesFrom false s
  | _, '\r' :: '\n' :: s => skipLinesFrom false s
  | true, c :: s => if isPrintable c then skipLinesFrom true s else none
  | false, c :: s =>
    if isBlank c then skipLinesFrom false s
    else if c = '#' then skipLinesFrom true s
    else some (c :: s)

/-- Drop blanks, comments and line breaks. -/
def skipLines (s : List Char) : Option (List Char) :=
  skipLinesFrom false s

/-- The end of a line: blanks, perhaps a comment, and a line break or the end of the text. -/
def endOfLine? (s : List Char) : Option (List Char) :=
  let s := skipBlanks s
  let rest := if s.head? = some '#' then s.dropWhile isPrintable else s
  if rest.isEmpty then some [] else (lineBreak? rest).map (·.2)

/-! ## Strings -/

/-- A character written by its code point in so many hexadecimal digits. -/
def codePoint? (width : Nat) (s : List Char) : Option (Char × List Char) := do
  let digits := s.take width
  if digits.length ≠ width then none
  let n ← valueIn? 16 digits
  if n < 0xD800 ∨ (0xE000 ≤ n ∧ n < 0x110000) then some (Char.ofNat n, s.drop width) else none

/-- The escape after a backslash. -/
def escape? : List Char → Option (Char × List Char)
  | 'b' :: s => some ('\x08', s)
  | 't' :: s => some ('\t', s)
  | 'n' :: s => some ('\n', s)
  | 'f' :: s => some ('\x0c', s)
  | 'r' :: s => some ('\r', s)
  | 'e' :: s => some ('\x1b', s)
  | '"' :: s => some ('"', s)
  | '\\' :: s => some ('\\', s)
  | 'x' :: s => codePoint? 2 s
  | 'u' :: s => codePoint? 4 s
  | 'U' :: s => codePoint? 8 s
  | _ => none

/-- The rest of a string in double quotes on one line, given its characters so far in reverse. -/
def basicFrom : Nat → List Char → List Char → Option (String × List Char)
  | 0, _, _ => none
  | fuel + 1, done, s =>
    match s with
    | '"' :: s => some (String.ofList done.reverse, s)
    | '\\' :: s => do
      let (c, s) ← escape? s
      basicFrom fuel (c :: done) s
    | c :: s => if isPrintable c then basicFrom fuel (c :: done) s else none
    | [] => none

/-- A string in double quotes on one line, after the opening quote. -/
def basic? (s : List Char) : Option (String × List Char) :=
  basicFrom (s.length + 1) [] s

/-- A string in single quotes on one line, after the opening quote. -/
def literal? (s : List Char) : Option (String × List Char) :=
  let inside := s.takeWhile fun c => c ≠ '\'' && isPrintable c
  match s.drop inside.length with
  | '\'' :: s => some (String.ofList inside, s)
  | _ => none

/-- Drop blanks and line breaks. -/
def skipWhite : List Char → List Char
  | [] => []
  | '\r' :: '\n' :: s => skipWhite s
  | c :: s => if isBlank c || c = '\n' then skipWhite s else c :: s

/-- A backslash at the end of a line: drop it with all blanks and line breaks up to the next
character. -/
def continued? (s : List Char) : Option (List Char) :=
  (lineBreak? (skipBlanks s)).map fun (_, s) => skipWhite s

/-- The end of a string on several lines, after three quotes: up to two more of them belong to the
string. -/
def closing (quote : Char) (done s : List Char) : String × List Char :=
  let more := (s.take 2).takeWhile (· = quote)
  (String.ofList (more ++ done).reverse, s.drop more.length)

/-- The rest of a string on several lines, with escapes or without, given its characters so far in
reverse. -/
def multilineFrom (quote : Char) (escapes : Bool) :
    Nat → List Char → List Char → Option (String × List Char)
  | 0, _, _ => none
  | fuel + 1, done, s =>
    match s with
    | [] => none
    | c :: rest =>
      if [quote, quote, quote].isPrefixOf s then some (closing quote done (s.drop 3))
      else if c = '\\' ∧ escapes then
        match continued? rest with
        | some rest => multilineFrom quote escapes fuel done rest
        | none => do
          let (c, rest) ← escape? rest
          multilineFrom quote escapes fuel (c :: done) rest
      else
        match lineBreak? s with
        | some (written, rest) =>
          multilineFrom quote escapes fuel (written.reverse ++ done) rest
        | none =>
          if isPrintable c then multilineFrom quote escapes fuel (c :: done) rest else none

/-- A string on several lines, after the opening quotes. A line break right there is dropped. -/
def multiline? (quote : Char) (escapes : Bool) (s : List Char) : Option (String × List Char) :=
  let s := ((lineBreak? s).map (·.2)).getD s
  multilineFrom quote escapes (s.length + 1) [] s

/-- A string of any of the four forms. -/
def string? (s : List Char) : Option (String × List Char) :=
  match s with
  | '"' :: '"' :: '"' :: s => multiline? '"' true s
  | '\'' :: '\'' :: '\'' :: s => multiline? '\'' false s
  | '"' :: s => basic? s
  | '\'' :: s => literal? s
  | _ => none

/-! ## Keys -/

/-- A character of a bare key. -/
def isBareKey (c : Char) : Bool :=
  ('a' ≤ c && c ≤ 'z') || ('A' ≤ c && c ≤ 'Z') || ('0' ≤ c && c ≤ '9') || c = '_' || c = '-'

/-- A bare key. -/
def bareKey? (s : List Char) : Option (String × List Char) :=
  let name := s.takeWhile isBareKey
  if name.isEmpty then none else some (String.ofList name, s.drop name.length)

/-- One part of a key. -/
def keyPart? (s : List Char) : Option (String × List Char) :=
  match s with
  | '"' :: s => basic? s
  | '\'' :: s => literal? s
  | s => bareKey? s

/-- The parts of a key between dots, so many at most. -/
def key? : Nat → List Char → Option (List String × List Char)
  | 0, _ => none
  | limit + 1, s => do
    let (part, s) ← keyPart? (skipBlanks s)
    match skipBlanks s with
    | '.' :: s =>
      let (parts, s) ← key? limit s
      return (part :: parts, s)
    | s => return ([part], s)

end TagRules.Toml
