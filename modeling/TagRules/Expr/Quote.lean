import TagRules.Expr.Builtin
import TagRules.Text.Letters

/-!
# Cutting expressions at places outside of text literals

A text literal begins and ends with a straight or a curved double quote; a quote after a backslash
does neither. Within a literal no operator, bracket, comma or blank has a meaning. `Quote` follows a
text character by character and knows whether it is within a literal; the functions below cut a
text at separators, commas, comparisons and top-level parentheses, and lose nothing.
-/

namespace TagRules

/-- A double quote, straight or curved. -/
def isQuote (c : Char) : Bool :=
  c = '"' || c = '\u201C' || c = '\u201D'

/-- Where a text stands with respect to its literals. -/
structure Quote where
  /-- Within a literal. -/
  inside : Bool := false
  /-- The last character was a backslash. -/
  escaped : Bool := false
deriving DecidableEq, Repr

/-- Read one character. -/
def Quote.next (q : Quote) (c : Char) : Quote :=
  ⟨if isQuote c && !q.escaped then !q.inside else q.inside, c = '\\'⟩

/-- The place after a text. -/
def Quote.after (q : Quote) (s : List Char) : Quote :=
  s.foldl Quote.next q

/-- The remainder of a text that begins with something. -/
def afterFront? (front s : List Char) : Option (List Char) :=
  if front.isPrefixOf s then some (s.drop front.length) else none

/-- Put a character in front of the first of several parts. -/
def consFirst (c : Char) : List (List Char) → List (List Char)
  | [] => [[c]]
  | part :: parts => (c :: part) :: parts

/-- The parts of a text between the separators outside of literals. `skip` characters belong to a
separator that was found. -/
def splitFrom (separator : List Char) (q : Quote) (skip : Nat) : List Char → List (List Char)
  | [] => [[]]
  | c :: rest =>
    let q' := q.next c
    match skip with
    | skip + 1 => splitFrom separator q' skip rest
    | 0 =>
      if !q'.inside && separator.isPrefixOf (c :: rest) then
        [] :: splitFrom separator q' (separator.length - 1) rest
      else consFirst c (splitFrom separator q' 0 rest)

/-- The parts of a text between the separators outside of literals. -/
def splitAt (separator text : List Char) : List (List Char) :=
  splitFrom separator {} 0 text

/-- The comparison at the start of a text with what follows it, where something does. -/
def comparisonAt? (s : List Char) : Option (Builtin × List Char) :=
  Builtin.comparisons.findSome? fun (operator, function) =>
    match afterFront? operator s with
    | some (c :: rest) => some (function, c :: rest)
    | _ => none

/-- The first comparison outside of literals with text on both sides, given the text before in
reverse. -/
def comparisonFrom (q : Quote) (before : List Char) :
    List Char → Option (List Char × Builtin × List Char)
  | [] => none
  | c :: rest =>
    let q' := q.next c
    if q'.inside || before.isEmpty then comparisonFrom q' (c :: before) rest
    else
      match comparisonAt? (c :: rest) with
      | some (function, right) => some (before.reverse, function, right)
      | none => comparisonFrom q' (c :: before) rest

/-- The first comparison outside of literals with text on both sides. -/
def comparison? (text : List Char) : Option (List Char × Builtin × List Char) :=
  comparisonFrom {} [] text

/-- The items of a list of arguments, cut at the commas outside of literals and parentheses. Blanks
outside of literals are dropped. -/
def argumentsFrom (q : Quote) (depth : Nat) : List Char → List (List Char)
  | [] => [[]]
  | c :: rest =>
    let q' := q.next c
    if q'.inside then consFirst c (argumentsFrom q' depth rest)
    else if c = '(' then consFirst c (argumentsFrom q' (depth + 1) rest)
    else if c = ')' then consFirst c (argumentsFrom q' (depth - 1) rest)
    else if c = ',' && depth = 0 then [] :: argumentsFrom q' depth rest
    else if Text.isBlank c then argumentsFrom q' depth rest
    else consFirst c (argumentsFrom q' depth rest)

/-- The items of a list of arguments. -/
def argumentsOf (text : List Char) : List (List Char) :=
  argumentsFrom {} 0 text

/-- A piece of a text that is cut at its top-level parentheses. -/
inductive Piece where
  | plain (c : Char)
  /-- The inside of parentheses after a letter or a digit: the arguments of a call. -/
  | arguments (inner : List Char)
  /-- The inside of other parentheses: an expression of its own. -/
  | group (inner : List Char)
deriving DecidableEq, Repr

/-- How the cutting of a text at parentheses ends. -/
inductive Ending where
  | complete
  | extraClose
  | missingClose
  | missingQuote
deriving DecidableEq, Repr

/-- Put a piece in front. -/
def consPiece (p : Piece) (r : List Piece × Ending) : List Piece × Ending :=
  (p :: r.1, r.2)

mutual

/-- Cut a text outside of parentheses. `afterName` says that the last plain character, if no
parenthesis came after it, was a letter or a digit. Blanks outside of literals are dropped. -/
def piecesFrom (q : Quote) (afterName : Bool) : List Char → List Piece × Ending
  | [] => ([], if q.inside then .missingQuote else .complete)
  | c :: rest =>
    let q' := q.next c
    if q'.inside then consPiece (.plain c) (piecesFrom q' (Text.isLetterOrDigit c) rest)
    else if c = '(' then piecesWithin q' afterName 0 [] rest
    else if c = ')' then ([], .extraClose)
    else if Text.isBlank c then piecesFrom q' afterName rest
    else consPiece (.plain c) (piecesFrom q' (Text.isLetterOrDigit c) rest)

/-- Cut a text within parentheses, `depth` of them besides the outermost one, given the text since
that one in reverse. -/
def piecesWithin (q : Quote) (afterName : Bool) (depth : Nat) (inner : List Char) :
    List Char → List Piece × Ending
  | [] => ([], .missingClose)
  | c :: rest =>
    let q' := q.next c
    if q'.inside then piecesWithin q' afterName depth (c :: inner) rest
    else if c = '(' then piecesWithin q' afterName (depth + 1) (c :: inner) rest
    else if c = ')' then
      match depth with
      | 0 =>
        let text := Text.trim inner.reverse
        consPiece (if afterName then .arguments text else .group text) (piecesFrom q' false rest)
      | depth + 1 => piecesWithin q' afterName depth (c :: inner) rest
    else piecesWithin q' afterName depth (c :: inner) rest

end

/-- Cut a text at its top-level parentheses. -/
def piecesOf (text : List Char) : List Piece × Ending :=
  piecesFrom {} false text

end TagRules
