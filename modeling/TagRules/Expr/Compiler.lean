import TagRules.Expr.Basic
import TagRules.Expr.Error
import TagRules.Expr.Quote
import TagRules.Expr.Setting
import TagRules.Pattern.Reader
import TagRules.Tag.Store

/-!
# Compiling expressions

A text is first flattened: every top-level parenthesis is cut out and a placeholder `{N}` with the
number of a slot stands for it. After a letter or a digit the slot holds the raw arguments of a
call; elsewhere it holds the expression that the inside compiles to. The flat text is split at `||`,
else at `&&`, else at `^`, so that `||` binds loosest. A part without any of these is a comparison,
else a negation, else a placeholder or a call.

The steps call each other with fuel, one unit a call. `Failure.exhausted` says that it ran out; for
texts without an opening brace, whose placeholders all come from the text itself, it never does.
-/

namespace TagRules

/-- What a placeholder stands for. -/
inductive Slot where
  | expr (e : Expr)
  | arguments (raw : List Char)

/-- What compiling has gathered so far. -/
structure Draft where
  slots : List Slot := []
  /-- The highest level of a keyword. -/
  level : Level := .static
  /-- A function follows the run state. -/
  followsState : Bool := false
  /-- The constrainable tags that are tested, in order of appearance. -/
  dependsOn : List TagId := []
  /-- The keywords in order of appearance. -/
  keywords : List Keyword := []
  warnings : List String := []

/-- Why compiling stops. -/
inductive Failure where
  | rejected (e : CompileError)
  | exhausted

/-- A step of compiling. -/
abbrev Compile := StateT Draft (Except Failure)

/-- A compiled expression with what is known of it. -/
structure Compiled where
  expr : Expr
  level : Level
  followsState : Bool
  dependsOn : List TagId
  keywords : List Keyword
  /-- Problems that did not prevent compilation. -/
  warnings : List String

namespace Compile

/-- Refuse the text. -/
def reject (e : CompileError) : Compile α :=
  throw (.rejected e)

/-- Fill the next slot and return its placeholder. -/
def fill (slot : Slot) : Compile (List Char) := do
  let draft ← get
  set { draft with slots := draft.slots ++ [slot] }
  return '{' :: Digits.ofNat draft.slots.length ++ ['\x7d']

/-- The number in a placeholder. A plus sign and leading zeros are allowed. -/
def placeholder? (key : List Char) : Option Nat :=
  match key with
  | '{' :: rest =>
    match rest.getLast? with
    | some '\x7d' =>
      match rest.dropLast with
      | '+' :: digits => Digits.read? digits
      | digits => Digits.read? digits
    | _ => none
  | _ => none

/-- The slot behind a placeholder. -/
def slot? (key : List Char) : Compile (Option Slot) := do
  let draft ← get
  return (placeholder? key).bind (draft.slots[·]?)

/-- Require a condition. -/
def condition (e : Expr) : Compile Expr :=
  if e.kind = .bool then pure e else reject (.notBoolean e.canonical)

/-- The number that a word stands for: the sign or the word for infinity, or a word that begins with
a digit and is a decimal number with a point or an integer of 64 bits without one. -/
def number? (word : List Char) : Option Double :=
  if word = ['∞'] ∨ Text.eqIgnoringCase word "infinity".toList then some .infinity
  else if (word.head?.map Digits.isDigit).getD false then
    if word.contains '.' then Double.readDecimal? word
    else (Digits.read? word).bind fun n => if n < Nat.pow 2 63 then some (.ofNat n) else none
  else none

/-- A word without quotes: a number, a keyword or neither. -/
def word (token : List Char) : Compile Operand := do
  match number? token with
  | some n => return .number n
  | none =>
    if (token.head?.map Digits.isDigit).getD false then return .bare (String.ofList token)
    match Keyword.ofWord? token with
    | none => return .bare (String.ofList token)
    | some k =>
      modify fun draft => { draft with
        level := max draft.level k.level
        keywords := if draft.keywords.contains k then draft.keywords else draft.keywords ++ [k] }
      return .keyword k

/-- A text literal with its quotes. -/
def literal (item : List Char) : Compile Operand :=
  match item.drop 1 with
  | [] => reject (.malformedString (String.ofList item))
  | inner =>
    if (inner.getLast?.map isQuote).getD false then return .text (String.ofList inner.dropLast)
    else reject (.malformedString (String.ofList item))

/-- The arguments have the shape that the function needs. -/
def fits (signature : Signature) (args : List Operand) : Bool :=
  match signature, args with
  | .nullary, [] => true
  | .literal, [.text _] => true
  | .numbers, [_, _] => true
  | .texts, [_, _] => true
  | .pattern, [_, .text _] => true
  | .quantity, [.number _] => true
  | .quantity, [.expr _] => true
  | .quantity, [.keyword k] => !k.isTextual
  | _, _ => false

/-- The first expression among numeric arguments that is no number. -/
def notNumeric? (signature : Signature) (args : List Operand) : Option Expr :=
  match signature with
  | .numbers => args.findSome? wrong
  | .quantity => args.findSome? wrong
  | _ => none
where
  /-- An expression that yields no number. -/
  wrong : Operand → Option Expr
    | .expr e => if e.kind = .number then none else some e
    | _ => none

/-- Note the tags of a name, which have to exist where there is a store. -/
def testTag (tags : Option TagStore) (name : String) : Compile Unit := do
  match tags with
  | none => pure ()
  | some store =>
    let found := store.tagsByName name
    if found.isEmpty then reject (.unknownTag name)
    let ids := (found.filter (·.constrainable)).map (·.id)
    modify fun draft => { draft with
      dependsOn := ids.foldl (fun l t => if l.contains t then l else l ++ [t]) draft.dependsOn }

/-- The warning for a text that is no pattern. -/
def invalidPattern (source : String) (r : Pattern.Refusal) : String :=
  "Invalid constraint pattern: " ++ source ++ ": " ++ r.message

/-- The pattern of a text, or a warning. -/
def pattern (source : String) : Compile (Option Pattern) := do
  match Pattern.read source with
  | .ok p => return some p
  | .error r =>
    modify fun draft => { draft with warnings := draft.warnings ++ [invalidPattern source r] }
    return none

/-- A call of a function by a name, once its arguments are known. -/
def call (tags : Option TagStore) (name : List Char) (args : List Operand) : Compile Expr := do
  let name := String.ofList name
  let some f := Builtin.ofName? name | reject (.unknownFunction name)
  if !fits f.signature args then
    reject (.invalidArguments name
      (String.ofList (joinWith [','] (operandsChars args))))
  if let some e := notNumeric? f.signature args then
    reject (.notNumeric e.canonical)
  let (args, p) ← match f, args with
    | .hasTag, [.text tag] => do
      testTag tags tag
      pure (args, none)
    | .hasNet, [.text net] =>
      match network? net with
      | some net => pure ([.text net], none)
      | none => reject (.unknownNetwork net)
    | .matching, [_, .text source] => do
      let p ← pattern source
      pure (args, p)
    | .getConfig, [.text key] =>
      match Setting.ofKey? key with
      | some setting => pure ([.text setting.key], none)
      | none => reject (.unknownConfigKey key)
    | _, _ => pure (args, none)
  if f.followsState then
    modify fun draft => { draft with followsState := true }
  return .call f name args p

/-- The combinations with their separators, the loosest one first. -/
def combinations : List (List Char × (List Expr → Expr)) :=
  [(['|', '|'], .or), (['&', '&'], .and), (['^'], .xor)]

/-- A way to combine expressions, with its separator. -/
inductive Combination : List Char → (List Expr → Expr) → Prop
  | or : Combination ['|', '|'] .or
  | and : Combination ['&', '&'] .and
  | xor : Combination ['^'] .xor

theorem Combination.of_mem {separator : List Char} {combine : List Expr → Expr}
    (mem : (separator, combine) ∈ combinations) : Combination separator combine := by
  simp only [combinations, List.mem_cons, Prod.mk.injEq, List.not_mem_nil, or_false] at mem
  rcases mem with ⟨rfl, rfl⟩ | ⟨rfl, rfl⟩ | ⟨rfl, rfl⟩
  · exact .or
  · exact .and
  · exact .xor

/-- The loosest combination whose separator occurs in a text, with its parts. -/
def combination? (text : List Char) : Option (List Char × (List Expr → Expr) × List (List Char)) :=
  combinations.findSome? fun (separator, combine) =>
    let parts := splitAt separator text
    if 2 ≤ parts.length then some (separator, combine, parts) else none

/-- A name and the text in the parentheses after it, at the end of a text. -/
def named? (text : List Char) : Option (List Char × List Char) :=
  let name := text.takeWhile (· ≠ '(')
  match text.dropWhile (· ≠ '(') with
  | '(' :: rest =>
    if !name.isEmpty && rest.getLast? = some ')' then some (name, Text.trim rest.dropLast) else none
  | _ => none

mutual

/-- A text with its parentheses and blanks. -/
def start (tags : Option TagStore) : Nat → List Char → Compile Expr
  | 0, _ => throw .exhausted
  | fuel + 1, text => do
    let text := Text.trim text
    if text.isEmpty then reject .empty
    else if Text.eqIgnoringCase text "true".toList then return .literal (.bool true)
    else if Text.eqIgnoringCase text "false".toList then return .literal (.bool false)
    else
      let (pieces, ending) := piecesOf text
      let flat ← flatten tags fuel pieces
      match ending with
      | .extraClose => reject (.unmatchedClose (String.ofList text))
      | .missingClose => reject (.unmatchedOpen (String.ofList text))
      | .missingQuote => reject (.unmatchedQuote (String.ofList text))
      | .complete => basic tags fuel flat

/-- The flat text of pieces, with placeholders for those in parentheses. -/
def flatten (tags : Option TagStore) : Nat → List Piece → Compile (List Char)
  | 0, _ => throw .exhausted
  | fuel + 1, pieces => do
    let parts ← pieces.mapM fun piece =>
      match piece with
      | .plain c => pure [c]
      | .arguments inner => do
        let key ← fill (.arguments inner)
        return '(' :: key ++ [')']
      | .group inner => do
        let e ← start tags fuel inner
        fill (.expr e)
    return parts.flatten

/-- A flat text. -/
def basic (tags : Option TagStore) : Nat → List Char → Compile Expr
  | 0, _ => throw .exhausted
  | fuel + 1, text => do
    if text.isEmpty then reject (.unsupported "")
    else if let some (separator, combine, parts) := combination? text then
      if parts.any Text.blank then
        if separator = ['^'] then reject .tooFewOperands
        else reject (.unsupported (String.ofList text))
      else
        let es ← parts.mapM fun part => do
          let e ← basic tags fuel (Text.trim part)
          condition e
        return combine es
    else if let some (left, function, right) := comparison? text then
      let args ← arguments tags fuel (left ++ ',' :: right)
      call tags function.name.toList args
    else
      match text with
      | '!' :: rest => do
        let e ← basic tags fuel (Text.trim rest)
        let e ← condition e
        return .not e
      | '{' :: _ =>
        match ← slot? text with
        | some (.expr e) => return e
        | some (.arguments _) => reject (.unsupported (String.ofList text))
        | none => reject (.unresolvedPlaceholder (String.ofList text))
      | _ =>
        match named? text with
        | none => reject (.unsupported (String.ofList text))
        | some (name, key) =>
          match ← slot? key with
          | some (.arguments raw) =>
            let args ← arguments tags fuel raw
            call tags name args
          | _ => reject (.unresolvedPlaceholder (String.ofList key))

/-- A raw list of arguments. -/
def arguments (tags : Option TagStore) : Nat → List Char → Compile (List Operand)
  | 0, _ => throw .exhausted
  | fuel + 1, raw =>
    let raw := Text.trim raw
    if raw.isEmpty then pure []
    else (argumentsOf raw).mapM fun item =>
      if item.isEmpty then reject (.emptyArgument (String.ofList raw)) else argument tags fuel item

/-- One argument. -/
def argument (tags : Option TagStore) : Nat → List Char → Compile Operand
  | 0, _ => throw .exhausted
  | fuel + 1, item => do
    if (item.head?.map isQuote).getD false then literal item
    else if item.head? = some '{' then
      match ← slot? item with
      | some (.expr e) => return .expr e
      | some (.arguments raw) =>
        match ← arguments tags fuel raw with
        | [value] => return value
        | _ => reject (.ambiguousReference (String.ofList item))
      | none => reject (.unresolvedPlaceholder (String.ofList item))
    else if item.contains '(' then
      let e ← start tags fuel item
      return .expr e
    else word item

end

/-- Fuel that is enough for a text whose placeholders are its own. -/
def fuelFor (text : List Char) : Nat :=
  8 * (Text.ink text + 2) * (text.count '(' + 2)

/-- Compile a whole constraint from an empty draft. -/
def run (tags : Option TagStore) (text : List Char) : Except Failure Compiled := do
  if Text.blank text then throw (.rejected .empty)
  let whole : Compile Expr := do
    let e ← start tags (fuelFor text) text
    condition e
  let (expr, draft) ← StateT.run whole {}
  return {
    expr
    level := draft.level
    followsState := draft.followsState
    dependsOn := draft.dependsOn
    keywords := draft.keywords
    warnings := draft.warnings }

end Compile

/-- Compile the text of a constraint. With a store of tags, the tags that are tested have to be in
it. -/
def compile (tags : Option TagStore) (text : String) : Except CompileError Compiled :=
  match Compile.run tags text.toList with
  | .ok compiled => .ok compiled
  | .error (.rejected e) => .error e
  | .error .exhausted => .error (.unsupported text)

end TagRules
