import TagRules.Dict
import TagRules.Number.Double
import TagRules.Time.Instant

/-!
# Subjects

A subject is an item that tags are assigned to: a download with its files, its transfer counters and
what is known of its swarm. Attributes that may be unknown are optional; the accessors say what an
unknown one counts as.
-/

namespace TagRules

/-- The identity of a subject. -/
structure SubjectId where
  index : Nat
deriving Repr, Inhabited

instance : Numbered SubjectId where
  number := SubjectId.index
  number_injective {a b} h := by cases a; cases b; cases h; rfl

/-- The identity of a subject as text. -/
def SubjectId.text (id : SubjectId) : String :=
  "#" ++ toString id.index

/-- What a subject is doing. -/
inductive RunState where
  | waiting
  | queued
  | downloading
  | seeding
  | checking
  | stopped
  | error
deriving DecidableEq, Repr, Inhabited

/-- The words for the run states. -/
def RunState.words : List (String × RunState) :=
  [("waiting", .waiting), ("queued", .queued), ("downloading", .downloading),
    ("seeding", .seeding), ("checking", .checking), ("stopped", .stopped), ("error", .error)]

/-- The word for a run state. -/
def RunState.word : RunState → String
  | .waiting => "waiting"
  | .queued => "queued"
  | .downloading => "downloading"
  | .seeding => "seeding"
  | .checking => "checking"
  | .stopped => "stopped"
  | .error => "error"

/-- Transfer counters. -/
structure TransferStats where
  /-- Unknown while nothing was downloaded. -/
  shareRatio : Option Double := none
  /-- From 0 to 100, skipped files left out. -/
  percentDone : Double := .zero
  secondsDownloading : Nat := 0
  secondsSeeding : Nat := 0
  /-- Seconds since data was last sent, absent if never. -/
  uploadIdle : Option Nat := none
  /-- Seconds since data was last received, absent if never. -/
  downloadIdle : Option Nat := none
  bytesDownloaded : Nat := 0
  bytesUploaded : Nat := 0
  swarmMergedBytes : Nat := 0
deriving DecidableEq, Repr, Inhabited

/-- Milestones in the life of a subject. -/
structure Timeline where
  added : Option Instant := none
  completed : Option Instant := none
  /-- When the subject last became active. -/
  lastActive : Option Instant := none
  /-- When a pause ends by itself. -/
  resumeAt : Option Instant := none
deriving DecidableEq, Repr, Inhabited

/-- Counts reported by a tracker. -/
structure Scrape where
  seeds : Int
  peers : Int
deriving DecidableEq, Repr, Inhabited

/-- What is known of the swarm. -/
structure SwarmStats where
  connectedSeeds : Int := 0
  connectedPeers : Int := 0
  scrape : Option Scrape := none
  peerMaxCompletion : Option Double := none
  leecherMaxCompletion : Option Double := none
  peerAverageCompletion : Option Double := none
  availability : Option Double := none
deriving DecidableEq, Repr, Inhabited

namespace SwarmStats

/-- The larger of the connected and the reported count, never negative. -/
def larger (connected : Int) (reported : Option Int) : Nat :=
  (max connected (reported.getD connected)).toNat

/-- The number of seeds. -/
def seeds (s : SwarmStats) : Nat :=
  larger s.connectedSeeds (s.scrape.map (·.seeds))

/-- The number of peers. -/
def peers (s : SwarmStats) : Nat :=
  larger s.connectedPeers (s.scrape.map (·.peers))

end SwarmStats

/-- The attributes of a subject. -/
structure SubjectRecord where
  id : SubjectId := ⟨0⟩
  name : String := ""
  state : RunState := .waiting
  paused : Bool := false
  forceStart : Bool := false
  complete : Bool := false
  isPrivate : Bool := false
  rechecking : Bool := false
  canArchive : Bool := false
  magnet : Bool := false
  lowNoise : Bool := false
  networks : List String := []
  size : Nat := 0
  files : List String := []
  stats : TransferStats := {}
  timeline : Timeline := {}
  swarm : SwarmStats := {}
  /-- The names of the tags that the subject starts out with. -/
  tags : List String := []
deriving DecidableEq, Repr, Inhabited

namespace SubjectRecord

/-- The last part of a path, empty parts and single dots left out. A path without one, or one that
ends with two dots, is its own name. -/
def baseName (path : String) : String :=
  let parts := (path.splitOn "/").filter fun part => part ≠ "" && part ≠ "."
  match parts.getLast? with
  | none => path
  | some part => if part = ".." then path else part

/-- The names of the files without their directories. -/
def fileNames (r : SubjectRecord) : List String :=
  r.files.map baseName

end SubjectRecord

/-- A subject: its attributes, and whether it is gone. -/
structure Subject where
  record : SubjectRecord
  destroyed : Bool := false
deriving DecidableEq, Repr, Inhabited

end TagRules
