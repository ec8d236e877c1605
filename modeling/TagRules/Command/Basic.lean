import TagRules.Command.Arguments

/-!
# Commands

What the command line can ask for, and how its arguments are read.
-/

namespace TagRules

/-- A command. -/
inductive Command where
  /-- Compile an expression, with the names of the tags it may test. -/
  | check (expr : String) (tags : List String)
  /-- Apply a file of rules to a file of subjects. -/
  | apply (rules subjects : String) (settings : Option String) (json : Bool)
  /-- List functions and keywords. -/
  | functions
  /-- Print settings, or write them to a file. -/
  | timings (source target : Option String)
deriving DecidableEq, Repr

/-- A command, and whether only its results are wanted. -/
structure Invocation where
  command : Command
  quiet : Bool
deriving DecidableEq, Repr

namespace Command

/-- The switches that every command takes. -/
def common : List Switch :=
  [⟨"verbose", some 'v', .counter⟩, ⟨"quiet", some 'q', .flag⟩, ⟨"help", some 'h', .help⟩]

/-- The switches in front of the name of a command. -/
def front : List Switch :=
  ⟨"version", some 'V', .version⟩ :: common

/-- The file with settings. -/
def settingsSwitch : Switch :=
  ⟨"config", some 'c', .single⟩

/-- Read the arguments after the name of a command. -/
def ofWords (name : String) (args : List String) : Except Stop Invocation := do
  let divided (own : List Switch) (limit : Nat) := Arguments.divide (own ++ common) limit args {}
  let required (value : Option String) : Except Stop String :=
    match value with
    | some text => .ok text
    | none => .error .usage
  if name = "check" ∨ name = "c" then
    let a ← divided [⟨"tag", some 't', .many⟩] 1
    let expr ← required a.words.head?
    return ⟨.check expr (a.valuesOf "tag"), a.has "quiet"⟩
  else if name = "apply" ∨ name = "a" then
    let a ← divided [⟨"rules", some 'r', .single⟩, ⟨"subjects", some 's', .single⟩,
      settingsSwitch, ⟨"json", none, .flag⟩] 0
    let rules ← required (a.value? "rules")
    let subjects ← required (a.value? "subjects")
    return ⟨.apply rules subjects (a.value? "config") (a.has "json"), a.has "quiet"⟩
  else if name = "functions" ∨ name = "fn" then
    let a ← divided [] 0
    return ⟨.functions, a.has "quiet"⟩
  else if name = "config" then
    let a ← divided [settingsSwitch, ⟨"write", some 'w', .single⟩] 0
    return ⟨.timings (a.value? "config") (a.value? "write"), a.has "quiet"⟩
  else if name = "help" then
    match args with
    | [] => .error .help
    | [topic] =>
      if ["check", "c", "apply", "a", "functions", "fn", "config", "help"].contains topic then
        .error .help
      else .error .usage
    | _ => .error .usage
  else .error .usage

end Command

/-- Read the arguments of the program. -/
def Invocation.ofArguments (args : List String) : Except Stop Invocation := do
  let (a, name, rest) ← Arguments.leading Command.front args {}
  let i ← Command.ofWords name rest
  return { i with quiet := i.quiet || a.has "quiet" }

end TagRules
