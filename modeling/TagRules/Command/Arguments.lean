/-!
# Arguments

How a list of arguments is divided into switches with their values and plain words. A switch has a
long form `--word` and may have a short form `-w`; a value follows it as the next argument, after an
equals sign, or right behind a letter. Letters may be clustered, and `--` makes plain words of all
that follows.
-/

namespace TagRules

/-- How often a switch may be given, and with how many values. -/
inductive Arity where
  /-- At most once, without a value. -/
  | flag
  /-- Any number of times, without a value. -/
  | counter
  /-- At most once, with a value that is not empty. -/
  | single
  /-- Any number of times, each with any number of values. -/
  | many
  /-- Asks for help instead of a command. -/
  | help
  /-- Asks for the version instead of a command. -/
  | version
deriving DecidableEq, Repr

/-- A switch. -/
structure Switch where
  word : String
  letter : Option Char
  arity : Arity
deriving DecidableEq, Repr

/-- A value may follow the switch. -/
def Switch.takesValue (s : Switch) : Bool :=
  s.arity = .single || s.arity = .many

/-- Why arguments do not yield a command. -/
inductive Stop where
  | usage
  | help
  | version
deriving DecidableEq, Repr

/-- The switches so far, newest first; the switch that still takes values; and the plain words. -/
structure Arguments where
  switches : List (String × List String) := []
  pending : Option (Switch × List String) := none
  words : List String := []
deriving Repr, Inhabited

namespace Arguments

/-- A switch was given. -/
def has (a : Arguments) (word : String) : Bool :=
  a.switches.any (·.1 == word)

/-- The values of a switch in order. -/
def valuesOf (a : Arguments) (word : String) : List String :=
  (a.switches.reverse.filter (·.1 == word)).flatMap (·.2)

/-- The value of a switch that has one. -/
def value? (a : Arguments) (word : String) : Option String :=
  (a.valuesOf word).head?

/-- Note a switch with its values. -/
def note (a : Arguments) (s : Switch) (values : List String) : Except Stop Arguments :=
  let noted : Arguments := { a with switches := (s.word, values) :: a.switches, pending := none }
  match s.arity, values with
  | .flag, [] => if a.has s.word then .error .usage else .ok noted
  | .counter, [] => .ok noted
  | .single, [value] => if a.has s.word || value.isEmpty then .error .usage else .ok noted
  | .many, _ => .ok noted
  | .help, [] => .error .help
  | .version, [] => .error .version
  | _, _ => .error .usage

/-- Close the switch that still takes values. -/
def settle (a : Arguments) : Except Stop Arguments :=
  match a.pending with
  | none => .ok a
  | some (s, values) => { a with pending := none }.note s values

/-- A switch with the value that is attached to it, if any. -/
def give (a : Arguments) (s : Switch) (attached : Option String) : Except Stop Arguments := do
  let a ← a.settle
  match attached with
  | some value => a.note s [value]
  | none => if s.takesValue then return { a with pending := some (s, []) } else a.note s []

/-- A cluster of letters. -/
def cluster (known : List Switch) : List Char → Arguments → Except Stop Arguments
  | [], a => .ok a
  | c :: rest, a =>
    match known.find? (·.letter == some c) with
    | none => .error .usage
    | some s =>
      if s.takesValue then
        match rest with
        | [] => a.give s none
        | '=' :: value => a.give s (some (String.ofList value))
        | value => a.give s (some (String.ofList value))
      else do
        let a ← a.give s none
        cluster known rest a

/-- The long form of a switch, after its dashes. -/
def long (known : List Switch) (text : List Char) (a : Arguments) : Except Stop Arguments :=
  let word := String.ofList (text.takeWhile (· ≠ '='))
  let attached :=
    match text.dropWhile (· ≠ '=') with
    | [] => none
    | _ :: value => some (String.ofList value)
  match known.find? (·.word == word) with
  | none => .error .usage
  | some s => a.give s attached

/-- An argument that has the form of a switch; none for a plain word. -/
def switch? (known : List Switch) (arg : String) (a : Arguments) :
    Option (Except Stop Arguments) :=
  match arg.toList with
  | '-' :: '-' :: text => some (long known text a)
  | ['-'] => none
  | '-' :: letters => some (cluster known letters a)
  | _ => none

/-- A plain word: the value of a switch that takes one, or a word of the command. -/
def word (a : Arguments) (limit : Nat) (arg : String) : Except Stop Arguments :=
  match a.pending with
  | some (s, values) =>
    if s.arity = .single then { a with pending := none }.note s [arg]
    else .ok { a with pending := some (s, values ++ [arg]) }
  | none =>
    if a.words.length < limit then .ok { a with words := a.words ++ [arg] } else .error .usage

/-- Divide arguments that have at most `limit` plain words. -/
def divide (known : List Switch) (limit : Nat) : List String → Arguments → Except Stop Arguments
  | [], a => a.settle
  | arg :: args, a =>
    if arg = "--" then do
      let a ← a.settle
      args.foldlM (fun a arg => a.word limit arg) a
    else
      match switch? known arg a with
      | some given => do
        let a ← given
        divide known limit args a
      | none => do
        let a ← a.word limit arg
        divide known limit args a

/-- Read the switches in front of the first plain word, and return it with what follows. -/
def leading (known : List Switch) :
    List String → Arguments → Except Stop (Arguments × String × List String)
  | [], _ => .error .usage
  | arg :: args, a =>
    if arg = "--" then .error .usage
    else
      match switch? known arg a with
      | some given => do
        let a ← given
        leading known args a
      | none => .ok (a, arg, args)

end Arguments

end TagRules
