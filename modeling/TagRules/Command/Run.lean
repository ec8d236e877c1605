import TagRules.Command.Basic
import TagRules.Command.Files
import TagRules.Report.Text
import TagRules.Rules.Apply
import TagRules.Rules.Decode
import TagRules.Subject.Decode

/-!
# Running commands

A command prints to two streams and ends with a code: 0 if all went well, 1 for an error, 2 for
arguments that are no command.
-/

namespace TagRules

/-- Why a command fails. -/
inductive CommandError where
  /-- There is no file with settings or rules at a path. -/
  | noSettings (path : String)
  /-- A file with settings or rules cannot be understood. -/
  | malformedSettings (path : String)
  | rules (p : RuleProblem)
  /-- An interval is too long to be written. -/
  | interval
  | unwritable (e : FileError)
  | unreadable (e : FileError)
  /-- A file with subjects cannot be understood. -/
  | malformedSubjects
  | subjects (r : SubjectRefusal)
deriving DecidableEq, Repr

/-- The wording. -/
def CommandError.message : CommandError → String
  | noSettings path => "Configuration error: configuration file \"" ++ path ++ "\" not found"
  | malformedSettings path => "Configuration error: cannot understand " ++ path
  | rules p => "Configuration error: " ++ p.message
  | interval => "Configuration error: Failed to serialize config: out-of-range value for u64 type"
  | unwritable e => "Configuration error: Failed to write config file: " ++ e.text
  | unreadable e => "I/O error: " ++ e.text
  | malformedSubjects => "JSON error: cannot understand the subjects"
  | subjects r => "Invalid input: " ++ r.message

/-- What a command prints, and the code it ends with. -/
structure Outcome where
  code : Nat := 0
  out : String := ""
  err : String := ""
deriving DecidableEq, Repr, Inhabited

namespace Outcome

/-- Lines for the first stream. -/
def lines (ls : List String) : Outcome where
  out := String.join (ls.map (· ++ "\n"))

/-- A failure with lines for the second stream. -/
def failure (ls : List String) : Outcome where
  code := 1
  err := String.join (ls.map (· ++ "\n"))

end Outcome

namespace Command

/-- Compile an expression. Without names of tags, tests of tags are not checked. -/
def runCheck (colour quiet : Bool) (expr : String) (tags : List String) : Outcome :=
  let store : TagStore :=
    (tags.zipIdx 1).foldl (fun store (name, index) => store.insertTag ⟨⟨index⟩, name, none, true,
      false, 0⟩) {}
  match compile (if tags.isEmpty then none else some store) expr with
  | .ok c => .lines [Display.compiled colour quiet c]
  | .error e => .failure (if quiet then [] else [Display.error colour e.message])

/-- List functions and keywords. -/
def runFunctions (colour quiet : Bool) : Outcome :=
  .lines <|
    (if quiet then [] else ["Functions:"]) ++ Display.functions colour ++
      (if quiet then [] else ["", "Keywords:"]) ++ Display.keywords colour

section Files

variable {m : Type → Type} [Monad m]

/-- The text of a file with settings or rules. The ending `.toml` may be left out. -/
def readSettings (files : FileAccess m) (path : String) : ExceptT CommandError m String := do
  match ← files.read path with
  | .ok text => return text
  | .error (.other text) => throw (.unreadable (.other text))
  | .error _ =>
    let some path' := FilePath.withEnding? ".toml" path | throw (.noSettings path)
    match ← files.read path' with
    | .ok text => return text
    | .error _ => throw (.noSettings path)

/-- The timings in a file, or the usual ones. -/
def readTimings (files : FileAccess m) (path : Option String) : ExceptT CommandError m Timings := do
  match path with
  | none => return {}
  | some path =>
    match Timings.read? (← readSettings files path) with
    | some t => return t
    | none => throw (.malformedSettings path)

/-- The rules in a file. -/
def readRules (files : FileAccess m) (path : String) : ExceptT CommandError m RuleSet := do
  match RuleSet.read (← readSettings files path) with
  | .ok rules => return rules
  | .error .malformed => throw (.malformedSettings path)
  | .error (.problem p) => throw (.rules p)

/-- The subjects in a file. -/
def readSubjects (files : FileAccess m) (path : String) :
    ExceptT CommandError m (List SubjectRecord) := do
  match ← files.read path with
  | .error e => throw (.unreadable e)
  | .ok text =>
    match SubjectRecord.readList? text with
    | some records => return records
    | none => throw .malformedSubjects

/-- Apply a file of rules to a file of subjects. -/
def runApply (files : FileAccess m) (w : World) (colour quiet : Bool) (rules subjects : String)
    (settings : Option String) (json : Bool) : ExceptT CommandError m Outcome := do
  let timings ← readTimings files settings
  let rules ← readRules files rules
  let records ← readSubjects files subjects
  match rules.apply w timings records with
  | .error r => throw (.subjects r)
  | .ok report =>
    return .lines (if json then [report.toJson.pretty] else Display.report colour quiet report)

/-- Print settings, or write them to a file. -/
def runTimings (files : FileAccess m) (quiet : Bool) (source target : Option String) :
    ExceptT CommandError m Outcome := do
  let timings ← readTimings files source
  let some text := timings.write? | throw .interval
  match target with
  | none => return { out := text }
  | some path =>
    match ← files.write path text with
    | .error e => throw (.unwritable e)
    | .ok () => return .lines (if quiet then [] else ["Settings written to " ++ path])

/-- Run a command. -/
def run (files : FileAccess m) (w : World) (colour quiet : Bool) :
    Command → ExceptT CommandError m Outcome
  | .check expr tags => return runCheck colour quiet expr tags
  | .apply rules subjects settings json =>
    runApply files w colour quiet rules subjects settings json
  | .functions => return runFunctions colour quiet
  | .timings source target => runTimings files quiet source target

end Files

/-- How the program is used. -/
def usage : String :=
  "Usage: autotag [-v] [-q] COMMAND\n\n" ++
    "  check EXPR [-t TAG...]                                  compile an expression\n" ++
    "  apply -r RULES -s SUBJECTS [-c SETTINGS] [--json]       apply rules to subjects\n" ++
    "  functions                                               list functions and keywords\n" ++
    "  config [-c SETTINGS] [-w FILE]                          show or write settings\n"

/-- Run the program on its arguments. -/
def perform {m : Type → Type} [Monad m] (files : FileAccess m) (w : World) (colour : Bool)
    (args : List String) : m Outcome := do
  match Invocation.ofArguments args with
  | .error .help => return { out := usage }
  | .error .version => return { out := "autotag 0.1.0\n" }
  | .error .usage => return { code := 2, err := usage }
  | .ok i =>
    match ← (i.command.run files w colour i.quiet).run with
    | .ok outcome => return outcome
    | .error e => return .failure [Display.error colour e.message]

end Command

end TagRules
