import TagRules.Text.Blank

/-!
# Keywords

A bare word among the arguments of a call names an attribute of the subject. Each keyword has a
level: how the attribute may change without an event that tells of it.
-/

namespace TagRules

/-- How the inputs of an expression may change. -/
inductive Level where
  /-- Only with the description of the subject. -/
  | static
  /-- While the subject is running. -/
  | runningState
  /-- As time passes. -/
  | time
deriving DecidableEq, Repr, Inhabited

namespace Level

/-- The position in the order of levels. -/
def rank : Level → Nat
  | static => 0
  | runningState => 1
  | time => 2

instance : LE Level := ⟨fun a b => a.rank ≤ b.rank⟩

instance (a b : Level) : Decidable (a ≤ b) := inferInstanceAs (Decidable (a.rank ≤ b.rank))

instance : Max Level := ⟨fun a b => if a ≤ b then b else a⟩

/-- The level as text. -/
def text : Level → String
  | static => "static"
  | runningState => "running-state"
  | time => "time"

end Level

/-- An attribute of a subject. -/
inductive Keyword where
  | shareRatio
  | age
  | percent
  | downloadingFor
  | seedingFor
  | swarmMergeBytes
  | lastActive
  | seedCount
  | peerCount
  | seedPeerRatio
  | resumeIn
  | minOfHour
  | hourOfDay
  | dayOfWeek
  | tagAge
  | completedAge
  | peerMaxCompletion
  | leecherMaxCompletion
  | peerAverageCompletion
  | size
  | sizeMb
  | sizeGb
  | fileCount
  | availability
  | upIdle
  | downIdle
  | downloaded
  | uploaded
  | name
  | fileNames
deriving DecidableEq, Repr

namespace Keyword

/-- All keywords in the order in which they are listed. -/
def all : List Keyword :=
  [shareRatio, age, percent, downloadingFor, seedingFor, swarmMergeBytes, lastActive, seedCount,
    peerCount, seedPeerRatio, resumeIn, minOfHour, hourOfDay, dayOfWeek, tagAge, completedAge,
    peerMaxCompletion, leecherMaxCompletion, peerAverageCompletion, size, sizeMb, sizeGb, fileCount,
    availability, upIdle, downIdle, downloaded, uploaded, name, fileNames]

theorem mem_all (k : Keyword) : k ∈ all := by
  cases k <;> decide

/-- The spellings in lower case, the canonical one first. -/
def spellings : Keyword → List String
  | shareRatio => ["shareratio", "share_ratio"]
  | age => ["age"]
  | percent => ["percent"]
  | downloadingFor => ["downloadingfor", "downloading_for"]
  | seedingFor => ["seedingfor", "seeding_for"]
  | swarmMergeBytes => ["swarmmergebytes", "swarm_merge_bytes"]
  | lastActive => ["lastactive", "last_active"]
  | seedCount => ["seedcount", "seed_count"]
  | peerCount => ["peercount", "peer_count"]
  | seedPeerRatio => ["seedpeerratio", "seed_peer_ratio"]
  | resumeIn => ["resumein", "resume_in"]
  | minOfHour => ["minofhour", "min_of_hour"]
  | hourOfDay => ["hourofday", "hour_of_day"]
  | dayOfWeek => ["dayofweek", "day_of_week"]
  | tagAge => ["tagage", "tag_age"]
  | completedAge => ["completedage", "completed_age"]
  | peerMaxCompletion => ["peermaxcompletion", "peer_max_completion"]
  | leecherMaxCompletion =>
    ["leechermaxcompletion", "leecher_max_completion", "leechmaxcompletion",
      "leech_max_completion"]
  | peerAverageCompletion => ["peeraveragecompletion", "peer_average_completion"]
  | size => ["size"]
  | sizeMb => ["sizemb", "size_mb"]
  | sizeGb => ["sizegb", "size_gb"]
  | fileCount => ["filecount", "file_count"]
  | availability => ["availability"]
  | upIdle => ["upidle", "up_idle"]
  | downIdle => ["downidle", "down_idle"]
  | downloaded => ["downloaded"]
  | uploaded => ["uploaded"]
  | name => ["name"]
  | fileNames => ["file_names", "filenames"]

/-- The canonical spelling. -/
def text (k : Keyword) : String :=
  k.spellings.headD ""

/-- The spellings besides the canonical one. -/
def aliases (k : Keyword) : List String :=
  k.spellings.drop 1

/-- The keyword of a word in any case. -/
def ofWord? (word : List Char) : Option Keyword :=
  let word := String.ofList (Text.lowerAscii word)
  all.find? (·.spellings.contains word)

/-- The level of the attribute. -/
def level : Keyword → Level
  | shareRatio => .runningState
  | percent => .runningState
  | downloadingFor => .runningState
  | seedingFor => .runningState
  | swarmMergeBytes => .runningState
  | lastActive => .runningState
  | peerMaxCompletion => .runningState
  | leecherMaxCompletion => .runningState
  | peerAverageCompletion => .runningState
  | availability => .runningState
  | upIdle => .runningState
  | downIdle => .runningState
  | downloaded => .runningState
  | uploaded => .runningState
  | age => .time
  | seedCount => .time
  | peerCount => .time
  | seedPeerRatio => .time
  | resumeIn => .time
  | minOfHour => .time
  | hourOfDay => .time
  | dayOfWeek => .time
  | tagAge => .time
  | completedAge => .time
  | size => .static
  | sizeMb => .static
  | sizeGb => .static
  | fileCount => .static
  | name => .static
  | fileNames => .static

/-- The attribute is text and not a number. -/
def isTextual : Keyword → Bool
  | name => true
  | fileNames => true
  | _ => false

end Keyword

end TagRules
