import TagRules.Text.Blank

/-!
# Builtin functions

The functions that an expression may call. A function fixes the shape of its arguments, the kind of
its result and whether its truth follows the run state of a subject. Names are case-sensitive; some
functions have short names besides the canonical one.
-/

namespace TagRules

/-- The kind of a value. -/
inductive Kind where
  | bool
  | number
deriving DecidableEq, Repr

/-- The shape of the arguments of a function. -/
inductive Signature where
  /-- None. -/
  | nullary
  /-- One text literal. -/
  | literal
  /-- Two numbers. -/
  | numbers
  /-- Two texts. -/
  | texts
  /-- A text and a pattern, which is a literal. -/
  | pattern
  /-- One number that is written as a number, a keyword or a call. -/
  | quantity
deriving DecidableEq, Repr

/-- A builtin function. -/
inductive Builtin where
  | hasTag
  | hasTagGroup
  | countTag
  | hasNet
  | isPrivate
  | isComplete
  | isForceStart
  | isChecking
  | isStopped
  | isPaused
  | isError
  | isMagnet
  | isLowNoise
  | canArchive
  | isGE
  | isGT
  | isLE
  | isLT
  | isEQ
  | isNEQ
  | contains
  | matching
  | javascript
  | hoursToSeconds
  | daysToSeconds
  | weeksToSeconds
  | getConfig
deriving DecidableEq, Repr

namespace Builtin

/-- All functions in the order in which they are listed. -/
def all : List Builtin :=
  [hasTag, hasTagGroup, countTag, hasNet, isPrivate, isComplete, isForceStart, isChecking,
    isStopped, isPaused, isError, isMagnet, isLowNoise, canArchive, isGE, isGT, isLE, isLT, isEQ,
    isNEQ, contains, matching, javascript, hoursToSeconds, daysToSeconds, weeksToSeconds,
    getConfig]

theorem mem_all (f : Builtin) : f ∈ all := by
  cases f <;> decide

/-- The canonical name. -/
def name : Builtin → String
  | hasTag => "hasTag"
  | hasTagGroup => "hasTagGroup"
  | countTag => "countTag"
  | hasNet => "hasNet"
  | isPrivate => "isPrivate"
  | isComplete => "isComplete"
  | isForceStart => "isForceStart"
  | isChecking => "isChecking"
  | isStopped => "isStopped"
  | isPaused => "isPaused"
  | isError => "isError"
  | isMagnet => "isMagnet"
  | isLowNoise => "isLowNoise"
  | canArchive => "canArchive"
  | isGE => "isGE"
  | isGT => "isGT"
  | isLE => "isLE"
  | isLT => "isLT"
  | isEQ => "isEQ"
  | isNEQ => "isNEQ"
  | contains => "contains"
  | matching => "matches"
  | javascript => "javascript"
  | hoursToSeconds => "hoursToSeconds"
  | daysToSeconds => "daysToSeconds"
  | weeksToSeconds => "weeksToSeconds"
  | getConfig => "getConfig"

/-- The short names. -/
def aliases : Builtin → List String
  | hoursToSeconds => ["htos", "h2s"]
  | daysToSeconds => ["dtos", "d2s"]
  | weeksToSeconds => ["wtos", "w2s"]
  | _ => []

/-- All names, the canonical one first. -/
def names (f : Builtin) : List String :=
  f.name :: f.aliases

/-- The function of a name. -/
def ofName? (name : String) : Option Builtin :=
  all.find? (·.names.contains name)

/-- The shape of the arguments. -/
def signature : Builtin → Signature
  | isPrivate => .nullary
  | isComplete => .nullary
  | isForceStart => .nullary
  | isChecking => .nullary
  | isStopped => .nullary
  | isPaused => .nullary
  | isError => .nullary
  | isMagnet => .nullary
  | isLowNoise => .nullary
  | canArchive => .nullary
  | hasTag => .literal
  | hasTagGroup => .literal
  | countTag => .literal
  | hasNet => .literal
  | javascript => .literal
  | getConfig => .literal
  | isGE => .numbers
  | isGT => .numbers
  | isLE => .numbers
  | isLT => .numbers
  | isEQ => .numbers
  | isNEQ => .numbers
  | contains => .texts
  | matching => .pattern
  | hoursToSeconds => .quantity
  | daysToSeconds => .quantity
  | weeksToSeconds => .quantity

/-- The kind of the result. -/
def result : Builtin → Kind
  | countTag => .number
  | hoursToSeconds => .number
  | daysToSeconds => .number
  | weeksToSeconds => .number
  | getConfig => .number
  | _ => .bool

/-- The truth of a call follows the run state of the subject. -/
def followsState : Builtin → Bool
  | isForceStart => true
  | isChecking => true
  | isComplete => true
  | isStopped => true
  | isError => true
  | isPaused => true
  | javascript => true
  | _ => false

/-- The seconds in a unit of time, for the functions that convert from it. -/
def secondsPerUnit? : Builtin → Option Nat
  | hoursToSeconds => some 3600
  | daysToSeconds => some 86400
  | weeksToSeconds => some 604800
  | _ => none

/-- The infix comparisons with their functions; a longer operator stands before its beginning. -/
def comparisons : List (List Char × Builtin) :=
  [(['=', '='], isEQ), (['!', '='], isNEQ), (['>', '='], isGE), (['>'], isGT), (['<', '='], isLE),
    (['<'], isLT)]

end Builtin

/-- The networks that a subject may be limited to. -/
def networks : List String :=
  ["Public", "I2P", "Tor"]

/-- The proper spelling of a network that is named in any case. -/
def network? (name : String) : Option String :=
  networks.find? fun n => Text.eqIgnoringCase n.toList name.toList

end TagRules
