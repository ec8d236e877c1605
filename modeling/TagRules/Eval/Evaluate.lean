import TagRules.Eval.Services
import TagRules.Pattern.Search
import TagRules.Text.Search

/-!
# Evaluating expressions

An expression is evaluated for a subject on behalf of the tag that owns it. Evaluation never fails:
what cannot be resolved is reported as the diagnostic of the owner and counts as false or zero. A
disjunction stops at the first operand that holds, a conjunction at the first that does not.
-/

namespace TagRules

/-- What an expression is evaluated for. -/
structure Scene where
  world : World
  /-- The tag that owns the expression. -/
  owner : TagId
  subject : SubjectRecord
  /-- The tags that the subject carries. -/
  tags : List Tag

/-- The shared state and the diagnostics so far, newest first. -/
structure EvalState where
  services : Services
  diagnostics : List String := []

/-- A step of evaluation. -/
abbrev Eval := StateM EvalState

namespace Eval

/-- Report a problem. -/
def report (sc : Scene) (message : String) : Eval Unit :=
  modify fun s => {
    services := s.services.mapStore (·.setDiagnostic sc.owner (some message))
    diagnostics := message :: s.diagnostics }

/-- A value where a condition is needed. -/
def condition (sc : Scene) (e : Expr) : Value → Eval Bool
  | .bool b => pure b
  | .number _ => do
    report sc ("'" ++ e.canonical ++ "' does not yield a boolean")
    return false

/-- Whole seconds since an instant, zero if there is none. -/
def secondsSince (sc : Scene) (t : Option Instant) : Double :=
  match t with
  | some t => .ofInt (sc.world.now.secondsFrom t)
  | none => .zero

/-- The ratio of seeds to peers. -/
def seedPeerRatio (seeds peers : Nat) : Double :=
  if peers = 0 then if seeds = 0 then .zero else .infinity
  else (Double.ofNat seeds).div (.ofNat peers)

/-- The number that a keyword stands for. What was never measured counts as unlimited where a large
value means inactivity, and as zero elsewhere. -/
def keyword (sc : Scene) (store : TagStore) (k : Keyword) : Double :=
  let r := sc.subject
  let now := sc.world.now
  let clock := now.shifted sc.world.offsetMinutes
  match k with
  | .shareRatio => r.stats.shareRatio.getD .infinity
  | .percent => r.stats.percentDone
  | .age => secondsSince sc r.timeline.added
  | .completedAge => secondsSince sc r.timeline.completed
  | .downloadingFor => .ofNat r.stats.secondsDownloading
  | .seedingFor => .ofNat r.stats.secondsSeeding
  | .swarmMergeBytes => .ofNat r.stats.swarmMergedBytes
  | .lastActive =>
    match r.timeline.lastActive with
    | some t => .ofInt (now.secondsFrom t)
    | none => .infinity
  | .resumeIn =>
    match r.timeline.resumeAt with
    | some t => if now.before t then .ofInt (t.secondsFrom now) else .zero
    | none => .zero
  | .minOfHour => .ofNat clock.minuteOfHour
  | .hourOfDay => .ofNat clock.hourOfDay
  | .dayOfWeek => .ofNat clock.dayOfWeek
  | .seedCount => .ofNat r.swarm.seeds
  | .peerCount => .ofNat r.swarm.peers
  | .seedPeerRatio => seedPeerRatio r.swarm.seeds r.swarm.peers
  | .tagAge =>
    match store.addedTime? sc.owner r.id with
    | some t => .ofInt (max (now.secondsFrom t) 0)
    | none => .zero
  | .peerMaxCompletion => r.swarm.peerMaxCompletion.getD .zero
  | .leecherMaxCompletion => r.swarm.leecherMaxCompletion.getD .zero
  | .peerAverageCompletion => r.swarm.peerAverageCompletion.getD .zero
  | .size => .ofNat r.size
  | .sizeMb => .ofNat (r.size / (1024 * 1024))
  | .sizeGb => .ofNat (r.size / (1024 * 1024 * 1024))
  | .fileCount => .ofNat r.files.length
  | .availability => r.swarm.availability.getD (.ofInt (-1))
  | .upIdle => (r.stats.uploadIdle.map Double.ofNat).getD .infinity
  | .downIdle => (r.stats.downloadIdle.map Double.ofNat).getD .infinity
  | .downloaded => .ofNat r.stats.bytesDownloaded
  | .uploaded => .ofNat r.stats.bytesUploaded
  | .name => .zero
  | .fileNames => .zero

/-- The text that an argument stands for. -/
def string (sc : Scene) (a : Operand) : Eval String :=
  match a with
  | .text s => pure s
  | .keyword .name => pure sc.subject.name
  | a => do
    report sc ("Invalid constraint string: " ++ a.canonical)
    return ""

/-- The file names of the subject. -/
def fileNames (sc : Scene) : Eval CachedNames := do
  let s ← get
  let (names, services) := s.services.readFileNames sc.subject
  set { s with services }
  return names

/-- All texts that an argument stands for. -/
def strings (sc : Scene) (a : Operand) : Eval (List String) :=
  match a with
  | .keyword .fileNames => do
    let names ← fileNames sc
    return names.names
  | a => do
    let s ← string sc a
    return [s]

/-- A pattern matches one of the texts of an argument. An outcome for the file names is remembered
as long as these are not read again. -/
def matching (sc : Scene) (p : Pattern) (a : Operand) : Eval Bool :=
  match a with
  | .keyword .fileNames => do
    let names ← fileNames sc
    let s ← get
    match s.services.outcome? sc.subject.id p names.stamp with
    | some matched => return matched
    | none =>
      let matched := names.names.any p.search
      set { s with
        services := s.services.rememberOutcome sc.subject.id ⟨p, names.stamp, matched⟩ }
      return matched
  | a => do
    let s ← string sc a
    return p.search s

/-- Run a script. -/
def script (sc : Scene) (source : String) : Eval Bool := do
  match sc.world.script with
  | none =>
    report sc "Script evaluation is not available"
    return false
  | some hook =>
    let call : ScriptCall :=
      ⟨sc.owner, "javascript( " ++ source ++ ")", sc.subject.id, "inTag"⟩
    modify fun s =>
      { s with services.scriptCalls := call :: s.services.scriptCalls }
    match hook call sc.subject with
    | .bool b => return b
    | .other => return false
    | .failed message =>
      report sc message
      return false

/-- Read a setting. -/
def setting (sc : Scene) (key : String) : Eval Double := do
  let s ← get
  let (result, settings) := s.services.settings.get sc.world.config sc.world.ticks key
  set { s with services.settings := settings }
  match result with
  | .ok value => return value
  | .error e =>
    report sc e.message
    return .zero

/-- The number of members of the first tag of a name. -/
def countTag (sc : Scene) (name : String) : Eval Double := do
  let s ← get
  match (s.services.store.tagsByName name).head? with
  | some tag => return .ofNat (s.services.store.memberCount tag.id)
  | none =>
    report sc ("Tag '" ++ name ++ "' not found")
    return .zero

/-- Compare two numbers. -/
def compare (f : Builtin) (a b : Double) : Bool :=
  match f with
  | .isGE => b.le a
  | .isGT => b.lt a
  | .isLE => a.le b
  | .isLT => a.lt b
  | .isEQ => a.eq b
  | .isNEQ => !a.eq b
  | _ => false

/-- A fact about the subject that a function without arguments, or with a literal, asks for. -/
def fact (sc : Scene) (f : Builtin) (text : String) : Bool :=
  let r := sc.subject
  match f with
  | .hasTag => sc.tags.any (·.name == text)
  | .hasTagGroup => sc.tags.any (·.group == some text)
  | .hasNet => r.networks.contains text
  | .isPrivate => r.isPrivate
  | .isForceStart => r.forceStart
  | .isChecking => r.state = .checking || (r.state = .seeding && r.rechecking)
  | .isComplete => r.complete
  | .isStopped => r.state = .stopped && !r.paused
  | .isError => r.state = .error
  | .isMagnet => r.magnet
  | .isLowNoise => r.lowNoise
  | .isPaused => r.paused
  | .canArchive => r.canArchive
  | _ => false

/-- The value of a call whose arguments need no numbers. -/
def plainCall (sc : Scene) (f : Builtin) (args : List Operand) (p : Option Pattern) : Eval Value :=
  match f, args with
  | .countTag, args => do
    let n ← countTag sc (textAt args 0)
    return .number n
  | .getConfig, args => do
    let n ← setting sc (textAt args 0)
    return .number n
  | .javascript, args => do
    let b ← script sc (textAt args 0)
    return .bool b
  | .contains, haystack :: needle :: _ => do
    let texts ← strings sc haystack
    let part ← string sc needle
    return .bool (texts.any fun s => Text.occursIn part.toList s.toList)
  | .matching, a :: _ =>
    match p with
    | none => pure (.bool false)
    | some p => do
      let b ← matching sc p a
      return .bool b
  | f, args => pure (.bool (fact sc f (textAt args 0)))

end Eval

open Eval (report)

mutual

/-- The value of an expression. -/
def Expr.value (sc : Scene) : Expr → Eval Value
  | .literal v => pure v
  | .not e => do
    let v ← e.value sc
    let b ← Eval.condition sc e v
    return .bool !b
  | .or es => do
    let b ← anyHolds sc es
    return .bool b
  | .and es => do
    let b ← allHold sc es
    return .bool b
  | .xor es => do
    if es.length < 2 then
      report sc "Two or more arguments required for ^"
      return .bool false
    else
      let b ← oddHold sc es
      return .bool b
  | .call f _ args p =>
    match f.signature with
    | .numbers =>
      match args with
      | a :: b :: _ => do
        let x ← a.amount sc
        let y ← b.amount sc
        return .bool (Eval.compare f x y)
      | _ => pure (.bool false)
    | .quantity => do
      let unit := Double.ofNat (f.secondsPerUnit?.getD 0)
      match args with
      | a :: _ =>
        let x ← a.amount sc
        return .number (x.mul unit).trunc
      | [] => return .number (Double.zero.mul unit).trunc
    | _ => Eval.plainCall sc f args p

/-- One of the conditions holds; those after it are not evaluated. -/
def anyHolds (sc : Scene) : List Expr → Eval Bool
  | [] => pure false
  | e :: es => do
    let v ← e.value sc
    if ← Eval.condition sc e v then return true else anyHolds sc es

/-- All conditions hold; those after the first that does not are not evaluated. -/
def allHold (sc : Scene) : List Expr → Eval Bool
  | [] => pure true
  | e :: es => do
    let v ← e.value sc
    if ← Eval.condition sc e v then allHold sc es else return false

/-- An odd number of the conditions hold. -/
def oddHold (sc : Scene) : List Expr → Eval Bool
  | [] => pure false
  | e :: es => do
    let v ← e.value sc
    let b ← Eval.condition sc e v
    let rest ← oddHold sc es
    return b != rest

/-- The number that an argument stands for. -/
def Operand.amount (sc : Scene) : Operand → Eval Double
  | .number n => pure n
  | .expr e => do
    match ← e.value sc with
    | .number n => return n
    | .bool _ =>
      report sc ("Invalid constraint numeric: " ++ e.canonical)
      return .zero
  | .keyword k =>
    if k.isTextual then do
      report sc ("Invalid constraint numeric: " ++ k.text)
      return .zero
    else do
      let s ← get
      return Eval.keyword sc s.services.store k
  | .bare word => do
    report sc ("Invalid constraint keyword: " ++ word)
    return .zero
  | .text s => do
    report sc ("Invalid constraint numeric: \"" ++ s ++ "\"")
    return .zero

end

/-- The truth of an expression. -/
def Expr.holds (sc : Scene) (e : Expr) : Eval Bool := do
  let v ← e.value sc
  Eval.condition sc e v

end TagRules
