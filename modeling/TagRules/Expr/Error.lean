/-!
# Why an expression is refused

Every way in which the text of a constraint can be rejected before it is evaluated, and the wording
of each.
-/

namespace TagRules

/-- The cause of a rejection. -/
inductive CompileError where
  /-- There is nothing to compile. -/
  | empty
  /-- An opening parenthesis is not closed. -/
  | unmatchedOpen (text : String)
  /-- A closing parenthesis has no partner. -/
  | unmatchedClose (text : String)
  /-- A text literal is not closed. -/
  | unmatchedQuote (text : String)
  /-- The text has none of the shapes of the grammar. -/
  | unsupported (text : String)
  /-- There is nothing behind a reference. -/
  | unresolvedPlaceholder (key : String)
  /-- A reference does not stand for exactly one value. -/
  | ambiguousReference (key : String)
  /-- There is no function of that name. -/
  | unknownFunction (name : String)
  /-- The number or the shape of arguments is wrong. -/
  | invalidArguments (function args : String)
  /-- There is no tag of that name. -/
  | unknownTag (name : String)
  /-- There is no network of that name. -/
  | unknownNetwork (name : String)
  /-- The setting may not be read. -/
  | unknownConfigKey (key : String)
  /-- An exclusive or has one operand only. -/
  | tooFewOperands
  /-- A number stands where a condition is needed. -/
  | notBoolean (expr : String)
  /-- A condition stands where a number is needed. -/
  | notNumeric (expr : String)
  /-- A list of arguments has an empty item. -/
  | emptyArgument (args : String)
  /-- Text follows the closing quote of a literal. -/
  | malformedString (text : String)
deriving DecidableEq, Repr, Inhabited

namespace CompileError

/-- The wording. -/
def message : CompileError → String
  | empty => "Empty expression"
  | unmatchedOpen text => "Unmatched '(' in \"" ++ text ++ "\""
  | unmatchedClose text => "Unmatched ')' in \"" ++ text ++ "\""
  | unmatchedQuote text => "Unmatched '\"' in \"" ++ text ++ "\""
  | unsupported text => "Unsupported construct: " ++ text
  | unresolvedPlaceholder key => "Reference " ++ key ++ " not found"
  | ambiguousReference key => "Reference " ++ key ++ " resolved incorrectly"
  | unknownFunction name => "Unsupported function '" ++ name ++ "'"
  | invalidArguments function args =>
    "Invalid parameters for function '" ++ function ++ "': " ++ args
  | unknownTag name => "Tag '" ++ name ++ "' not found"
  | unknownNetwork name => "Unknown network '" ++ name ++ "'"
  | unknownConfigKey key => "Unsupported configuration parameter: " ++ key
  | tooFewOperands => "Two or more arguments required for ^"
  | notBoolean expr => "'" ++ expr ++ "' does not yield a boolean"
  | notNumeric expr => "'" ++ expr ++ "' does not yield a number"
  | emptyArgument args => "Empty parameter in '" ++ args ++ "'"
  | malformedString text => "Malformed string literal: " ++ text

end CompileError

end TagRules
