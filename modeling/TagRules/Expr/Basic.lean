import TagRules.Expr.Builtin
import TagRules.Expr.Keyword
import TagRules.Number.Decimal
import TagRules.Pattern.Basic

/-!
# Expressions

The tree of an expression, and its canonical text: combinations are fully parenthesised and
comparisons appear as calls of their functions, so that the text can be compiled again.
-/

namespace TagRules

/-- The result of an expression. -/
inductive Value where
  | bool (b : Bool)
  | number (n : Double)
deriving DecidableEq, Repr, Inhabited

/-- The kind of a value. -/
def Value.kind : Value → Kind
  | bool _ => .bool
  | number _ => .number

/-- A value as text. -/
def Value.text : Value → String
  | bool b => if b then "true" else "false"
  | number n => n.format

mutual

/-- An expression. A call keeps the name as it was written, and the pattern that its second argument
stands for, where the function is one that needs a pattern and the text is one. -/
inductive Expr where
  | literal (v : Value)
  | not (e : Expr)
  | or (es : List Expr)
  | and (es : List Expr)
  | xor (es : List Expr)
  | call (function : Builtin) (name : String) (args : List Operand) (pattern : Option Pattern)

/-- An argument of a call. -/
inductive Operand where
  /-- A text literal without its quotes. -/
  | text (s : String)
  | number (n : Double)
  | keyword (k : Keyword)
  /-- A word that is neither a number nor a keyword. -/
  | bare (word : String)
  | expr (e : Expr)

end

instance : Inhabited Expr := ⟨.literal (.bool false)⟩

instance : Inhabited Operand := ⟨.bare ""⟩

/-- The kind of value that an expression yields. -/
def Expr.kind : Expr → Kind
  | .literal v => v.kind
  | .call f _ _ _ => f.result
  | _ => .bool

/-- Texts set apart by a separator. -/
def joinWith (separator : List Char) : List (List Char) → List Char
  | [] => []
  | [s] => s
  | s :: rest => s ++ separator ++ joinWith separator rest

mutual

/-- The characters of the canonical text of an expression. -/
def Expr.chars : Expr → List Char
  | .literal v => v.text.toList
  | .not e => '!' :: '(' :: e.chars ++ [')']
  | .or es => '(' :: joinWith ['|', '|'] (exprsChars es) ++ [')']
  | .and es => '(' :: joinWith ['&', '&'] (exprsChars es) ++ [')']
  | .xor es => '(' :: joinWith ['^'] (exprsChars es) ++ [')']
  | .call _ name args _ => name.toList ++ '(' :: joinWith [','] (operandsChars args) ++ [')']

/-- The canonical texts of several expressions. -/
def exprsChars : List Expr → List (List Char)
  | [] => []
  | e :: es => e.chars :: exprsChars es

/-- The characters of the canonical text of an argument. -/
def Operand.chars : Operand → List Char
  | .text s => '"' :: s.toList ++ ['"']
  | .number n => n.format.toList
  | .keyword k => k.text.toList
  | .bare word => word.toList
  | .expr e => e.chars

/-- The canonical texts of several arguments. -/
def operandsChars : List Operand → List (List Char)
  | [] => []
  | a :: args => a.chars :: operandsChars args

end

/-- The canonical text of an expression. -/
def Expr.canonical (e : Expr) : String :=
  String.ofList e.chars

/-- The canonical text of an argument. -/
def Operand.canonical (a : Operand) : String :=
  String.ofList a.chars

/-- The text of the argument at an index, empty where that is no text literal. -/
def textAt (args : List Operand) (index : Nat) : String :=
  match args[index]? with
  | some (.text s) => s
  | _ => ""

end TagRules
