import TagRules.Eval.Settings
import TagRules.Expr.Basic
import TagRules.Tag.Store

/-!
# What evaluation reads and what it may change

`World` is what expressions read and never change: the time, the subjects, the parameters of the
application and the script hook. `Services` is the state that evaluations share: the tag store,
where diagnostics go, and three caches that only save work.
-/

namespace TagRules

/-- What a script yields. -/
inductive ScriptResult where
  | bool (b : Bool)
  /-- Something that is no truth value. -/
  | other
  | failed (message : String)
deriving DecidableEq, Repr

/-- A call of the script hook. -/
structure ScriptCall where
  owner : TagId
  source : String
  subject : SubjectId
  site : String
deriving DecidableEq, Repr

/-- Evaluates a script for a subject; the answer depends on nothing else. -/
abbrev ScriptHook := ScriptCall → SubjectRecord → ScriptResult

/-- What evaluation reads and never changes. -/
structure World where
  /-- The time of day in universal time. -/
  now : Instant := .epoch
  /-- How far local clocks are ahead of universal time, in minutes. -/
  offsetMinutes : Int := 0
  /-- Nanoseconds on a steady clock. -/
  ticks : Nat := 0
  /-- All subjects by identity. -/
  subjects : Dict SubjectId Subject := {}
  /-- The population: the subjects that passes over all subjects visit, in this order. -/
  population : List SubjectId := []
  config : Option ConfigSource := none
  script : Option ScriptHook := none

/-- The base names of a subject's files as they were first read. The stamp tells one reading from
another. -/
structure CachedNames where
  stamp : Nat
  names : List String
deriving DecidableEq, Repr

/-- The outcome of a pattern for the file names of one reading. -/
structure CachedMatch where
  pattern : Pattern
  stamp : Nat
  matched : Bool
deriving DecidableEq, Repr

/-- The state that evaluations share. -/
structure Services where
  store : TagStore := {}
  settings : SettingsCache := {}
  /-- File names by subject. -/
  fileNames : Dict SubjectId CachedNames := {}
  /-- The stamp of the next reading of file names. -/
  nextStamp : Nat := 0
  /-- The last outcome of each pattern for each subject. -/
  outcomes : Dict SubjectId (List CachedMatch) := {}
  /-- The calls of the script hook, newest first. -/
  scriptCalls : List ScriptCall := []
deriving Inhabited

namespace Services

/-- The file names of a subject, read once. -/
def readFileNames (s : Services) (r : SubjectRecord) : CachedNames × Services :=
  match s.fileNames.get? r.id with
  | some names => (names, s)
  | none =>
    let names : CachedNames := ⟨s.nextStamp, r.fileNames⟩
    (names, { s with fileNames := s.fileNames.insert r.id names, nextStamp := s.nextStamp + 1 })

/-- Forget the file names of a subject. -/
def forgetSubject (s : Services) (id : SubjectId) : Services :=
  { s with fileNames := s.fileNames.erase id }

/-- The remembered outcome of a pattern for one reading of a subject's file names. -/
def outcome? (s : Services) (id : SubjectId) (p : Pattern) (stamp : Nat) : Option Bool :=
  (((s.outcomes.get? id).getD []).find? fun m => m.pattern == p && m.stamp == stamp).map
    (·.matched)

/-- Remember the outcome of a pattern in place of the last one. -/
def rememberOutcome (s : Services) (id : SubjectId) (m : CachedMatch) : Services :=
  let others := ((s.outcomes.get? id).getD []).filter (·.pattern != m.pattern)
  { s with outcomes := s.outcomes.insert id (m :: others) }

/-- Forget the outcomes of some patterns for a subject. -/
def forgetOutcomes (s : Services) (id : SubjectId) (ps : List Pattern) : Services :=
  { s with outcomes := s.outcomes.modify id fun ms => ms.filter fun m => !ps.contains m.pattern }

/-- Change the tag store. -/
def mapStore (s : Services) (f : TagStore → TagStore) : Services :=
  { s with store := f s.store }

end Services

mutual

/-- The patterns of an expression. -/
def Expr.patterns : Expr → List Pattern
  | .literal _ => []
  | .not e => e.patterns
  | .or es => exprsPatterns es
  | .and es => exprsPatterns es
  | .xor es => exprsPatterns es
  | .call _ _ args p => p.toList ++ operandsPatterns args

/-- The patterns of several expressions. -/
def exprsPatterns : List Expr → List Pattern
  | [] => []
  | e :: es => e.patterns ++ exprsPatterns es

/-- The patterns of an argument. -/
def Operand.patterns : Operand → List Pattern
  | .expr e => e.patterns
  | _ => []

/-- The patterns of several arguments. -/
def operandsPatterns : List Operand → List Pattern
  | [] => []
  | a :: args => a.patterns ++ operandsPatterns args

end

end TagRules
