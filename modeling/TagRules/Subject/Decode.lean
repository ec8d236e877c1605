import TagRules.Json.Decode
import TagRules.Json.Reader
import TagRules.Subject.Basic
import TagRules.Time.Rfc3339

/-!
# Subjects in JSON

A subject is a record whose members are all optional. The order of the names below is the order of
the items where a record is written as an array.
-/

namespace TagRules

open Json (Decoder)

/-- A number of 64 bits. -/
def Json.toNat64? : Decoder Nat :=
  Json.toNat? 64

/-- A point in time. -/
def Json.toInstant? : Decoder Instant := fun j =>
  j.toString?.bind fun s => Rfc3339.read? s.toList

/-- Transfer counters. -/
def TransferStats.decode? : Decoder TransferStats := fun j => do
  let m ← j.members? ["share_ratio", "percent_done", "seconds_downloading", "seconds_seeding",
    "upload_idle_secs", "download_idle_secs", "bytes_downloaded", "bytes_uploaded",
    "swarm_merged_bytes"]
  return {
    shareRatio := ← m.withDefault "share_ratio" (Json.toOption? Json.toDouble?) none
    percentDone := ← m.withDefault "percent_done" Json.toDouble? .zero
    secondsDownloading := ← m.withDefault "seconds_downloading" Json.toNat64? 0
    secondsSeeding := ← m.withDefault "seconds_seeding" Json.toNat64? 0
    uploadIdle := ← m.withDefault "upload_idle_secs" (Json.toOption? Json.toNat64?) none
    downloadIdle := ← m.withDefault "download_idle_secs" (Json.toOption? Json.toNat64?) none
    bytesDownloaded := ← m.withDefault "bytes_downloaded" Json.toNat64? 0
    bytesUploaded := ← m.withDefault "bytes_uploaded" Json.toNat64? 0
    swarmMergedBytes := ← m.withDefault "swarm_merged_bytes" Json.toNat64? 0 }

/-- Milestones. -/
def Timeline.decode? : Decoder Timeline := fun j => do
  let m ← j.members? ["added", "completed", "last_active", "resume_at"]
  return {
    added := ← m.withDefault "added" (Json.toOption? Json.toInstant?) none
    completed := ← m.withDefault "completed" (Json.toOption? Json.toInstant?) none
    lastActive := ← m.withDefault "last_active" (Json.toOption? Json.toInstant?) none
    resumeAt := ← m.withDefault "resume_at" (Json.toOption? Json.toInstant?) none }

/-- Tracker counts; both are needed. -/
def Scrape.decode? : Decoder Scrape := fun j => do
  let m ← j.members? ["seeds", "peers"]
  return {
    seeds := ← m.required "seeds" Json.toInt?
    peers := ← m.required "peers" Json.toInt? }

/-- What is known of the swarm. -/
def SwarmStats.decode? : Decoder SwarmStats := fun j => do
  let m ← j.members? ["connected_seeds", "connected_peers", "scrape", "peer_max_completion",
    "leecher_max_completion", "peer_average_completion", "availability"]
  let completion (name : String) := m.withDefault name (Json.toOption? Json.toDouble?) none
  return {
    connectedSeeds := ← m.withDefault "connected_seeds" Json.toInt? 0
    connectedPeers := ← m.withDefault "connected_peers" Json.toInt? 0
    scrape := ← m.withDefault "scrape" (Json.toOption? Scrape.decode?) none
    peerMaxCompletion := ← completion "peer_max_completion"
    leecherMaxCompletion := ← completion "leecher_max_completion"
    peerAverageCompletion := ← completion "peer_average_completion"
    availability := ← completion "availability" }

namespace SubjectRecord

/-- The names of the members of a subject in declared order. -/
def memberNames : List String :=
  ["id", "name", "state", "paused", "force_start", "complete", "private", "rechecking",
    "can_archive", "magnet", "low_noise", "networks", "size", "files", "stats", "timeline", "swarm",
    "tags"]

/-- A subject whose missing members are taken from another one. -/
def decodeOver? (base : SubjectRecord) : Decoder SubjectRecord := fun j => do
  let m ← j.members? memberNames
  let flag (name : String) (default : Bool) := m.withDefault name Json.toBool? default
  let texts (name : String) (default : List String) :=
    m.withDefault name (Json.toList? Json.toString?) default
  return {
    id := ← m.withDefault "id" (fun j => j.toNat64?.map SubjectId.mk) base.id
    name := ← m.withDefault "name" Json.toString? base.name
    state := ← m.withDefault "state" (Json.toWord? RunState.words) base.state
    paused := ← flag "paused" base.paused
    forceStart := ← flag "force_start" base.forceStart
    complete := ← flag "complete" base.complete
    isPrivate := ← flag "private" base.isPrivate
    rechecking := ← flag "rechecking" base.rechecking
    canArchive := ← flag "can_archive" base.canArchive
    magnet := ← flag "magnet" base.magnet
    lowNoise := ← flag "low_noise" base.lowNoise
    networks := ← texts "networks" base.networks
    size := ← m.withDefault "size" Json.toNat64? base.size
    files := ← texts "files" base.files
    stats := ← m.withDefault "stats" TransferStats.decode? base.stats
    timeline := ← m.withDefault "timeline" Timeline.decode? base.timeline
    swarm := ← m.withDefault "swarm" SwarmStats.decode? base.swarm
    tags := ← texts "tags" base.tags }

/-- A subject from a document. -/
def decode? : Decoder SubjectRecord :=
  decodeOver? {}

/-- The subjects in a text that is a JSON array. -/
def readList? (text : String) : Option (List SubjectRecord) :=
  (Json.read? text).bind (Json.toList? decode?)

end SubjectRecord

end TagRules
