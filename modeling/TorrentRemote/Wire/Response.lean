import TorrentRemote.Json.Fields
import TorrentRemote.Json.Parser
import TorrentRemote.Wire.Command

/-!
# Responses of a daemon

What a daemon answers to each command, read from JSON.  Values of a wrong type or out of range make
a response unreadable, whether or not anybody needs them.
-/

namespace TorrentRemote.Wire

open Json (Members)

/-! ### Torrents -/

/-- A tracker of a torrent. -/
structure Tracker where
  announce : String
  seederCount : Int64
  leecherCount : Int64

/-- A torrent, of which anything may be missing. -/
structure Torrent where
  hash : Option String
  name : Option String
  /-- A status code, from 0 to 6. -/
  status : Option Int64
  /-- Moments in seconds after the epoch. -/
  addedDate : Option Int64
  doneDate : Option Int64
  labels : Option (List String)
  sizeWhenDone : Option Int64
  leftUntilDone : Option Int64
  downloadedEver : Option UInt64
  uploadedEver : Option Int64
  rateDownload : Option Int64
  rateUpload : Option Int64
  downloadLimit : Option UInt64
  downloadLimited : Option Bool
  uploadLimit : Option UInt64
  uploadLimited : Option Bool
  trackers : Option (List Tracker)

/-- The last second of the calendar. -/
def lastSecond : Int := 8210266876799

/-- A moment in seconds, if it is after the epoch and within the calendar. -/
def moment? (json : Json) : Option (Option Int64) :=
  json.int64?.map fun seconds =>
    if 0 < seconds.toInt ∧ seconds.toInt ≤ lastSecond then some seconds else none

/-- A status code. -/
def status? (json : Json) : Option Int64 := (json.integer? 0 6).map Int64.ofInt

/-- A code of what a tracker is doing. -/
def trackerState? (json : Json) : Option Int := json.integer? 0 3

/-- The number or the text that identifies a tracker. -/
def trackerId? : Json → Option Unit
  | .string _ => some ()
  | json => json.int64?.map fun _ => ()

/-- The fields of a tracker that are texts. -/
def trackerTexts : List String :=
  ["announce", "host", "lastAnnounceResult", "lastScrapeResult", "scrape"]

/-- The fields of a tracker that are integers. -/
def trackerIntegers : List String :=
  ["downloadCount", "lastAnnouncePeerCount", "leecherCount", "seederCount",
    "lastAnnounceStartTime", "lastAnnounceTime", "lastScrapeStartTime", "lastScrapeTime",
    "nextAnnounceTime", "nextScrapeTime"]

/-- The fields of a tracker that are truth values. -/
def trackerBools : List String :=
  ["hasAnnounced", "hasScraped", "isBackup", "lastAnnounceSucceeded", "lastAnnounceTimedOut",
    "lastScrapeSucceeded", "lastScrapeTimedOut"]

/-- A tracker. -/
def tracker? (json : Json) : Option Tracker := do
  let members ← json.members?
  let _ ← trackerTexts.mapM (members.required? Json.text?)
  let _ ← trackerIntegers.mapM (members.required? Json.int64?)
  let _ ← trackerBools.mapM (members.required? Json.bool?)
  let _ ← ["announceState", "scrapeState"].mapM (members.required? trackerState?)
  let _ ← members.required? trackerId? "id"
  let _ ← members.required? Json.uint64? "tier"
  let _ ← members.nullable? Json.text? "sitename"
  some {
    announce := ← members.required? Json.text? "announce"
    seederCount := ← members.required? Json.int64? "seederCount"
    leecherCount := ← members.required? Json.int64? "leecherCount" }

/-- A torrent.  Its moments may be missing, but not null. -/
def torrent? (json : Json) : Option Torrent := do
  let members ← json.members?
  let _ ← members.nullable? Json.int64? "id"
  some {
    hash := ← members.nullable? Json.text? "hashString"
    name := ← members.nullable? Json.text? "name"
    status := ← members.nullable? status? "status"
    addedDate := ← members.optional? moment? none "addedDate"
    doneDate := ← members.optional? moment? none "doneDate"
    labels := ← members.nullable? (Json.list? Json.text?) "labels"
    sizeWhenDone := ← members.nullable? Json.int64? "sizeWhenDone"
    leftUntilDone := ← members.nullable? Json.int64? "leftUntilDone"
    downloadedEver := ← members.nullable? Json.uint64? "downloadedEver"
    uploadedEver := ← members.nullable? Json.int64? "uploadedEver"
    rateDownload := ← members.nullable? Json.int64? "rateDownload"
    rateUpload := ← members.nullable? Json.int64? "rateUpload"
    downloadLimit := ← members.nullable? Json.uint64? "downloadLimit"
    downloadLimited := ← members.nullable? Json.bool? "downloadLimited"
    uploadLimit := ← members.nullable? Json.uint64? "uploadLimit"
    uploadLimited := ← members.nullable? Json.bool? "uploadLimited"
    trackers := ← members.nullable? (Json.list? tracker?) "trackerStats" }

/-! ### Arguments -/

/-- What became of a torrent that was to be added. -/
inductive Added where
  | added (torrent : Torrent)
  | duplicate (torrent : Torrent)
  /-- Both of these, or neither. -/
  | error

/-- What became of a torrent that was to be added; every value has to be a torrent. -/
def added? (json : Json) : Option Added := do
  let members ← json.members?
  let _ ← members.mapM fun member => torrent? member.2
  let read (json : Json) : Option (Option Torrent) := (torrent? json).map some
  let added ← members.optional? read none "torrent-added"
  let duplicate ← members.optional? read none "torrent-duplicate"
  match added, duplicate with
  | some torrent, none => some (.added torrent)
  | none, some torrent => some (.duplicate torrent)
  | _, _ => some .error

/-- The statistics. -/
structure SessionStats where
  downloadSpeed : Int64
  uploadSpeed : Int64
  torrentCount : Int32

/-- The totals inside the statistics. -/
def totals? (json : Json) : Option Unit := do
  let members ← json.members?
  let _ ← members.required? Json.int32? "filesAdded"
  let _ ← ["downloadedBytes", "uploadedBytes", "secondsActive"].mapM
    (members.required? Json.int64?)
  let _ ← members.nullable? Json.int32? "sessionCount"
  some ()

/-- The statistics. -/
def stats? (json : Json) : Option SessionStats := do
  let members ← json.members?
  let _ ← ["activeTorrentCount", "pausedTorrentCount"].mapM (members.required? Json.int32?)
  let _ ← ["current-stats", "cumulative-stats"].mapM (members.required? totals?)
  some {
    downloadSpeed := ← members.required? Json.int64? "downloadSpeed"
    uploadSpeed := ← members.required? Json.int64? "uploadSpeed"
    torrentCount := ← members.required? Json.int32? "torrentCount" }

/-- The torrents. -/
def torrents? (json : Json) : Option (List Torrent) := do
  (← json.members?).required? (Json.list? torrent?) "torrents"

/-- The answer to a change of a stored name. -/
def renamed? (json : Json) : Option Unit := do
  let members ← json.members?
  let _ ← ["path", "name"].mapM (members.nullable? Json.text?)
  let _ ← members.nullable? Json.int64? "id"
  some ()

/-- The free space in bytes. -/
def freeSpace? (json : Json) : Option Int64 := do
  let members ← json.members?
  let _ ← members.required? Json.text? "path"
  members.required? Json.int64? "size-bytes"

/-- An answer that holds nothing; any object will do. -/
def nothing? (json : Json) : Option Unit := json.members?.map fun _ => ()

/-- What the arguments of a response to a command hold. -/
@[reducible] def Command.Arguments : Command → Type
  | torrentGet .. => List Torrent
  | torrentAdd _ => Added
  | sessionStats => SessionStats
  | freeSpace _ => Int64
  | torrentSet .. | torrentRenamePath .. | torrentAction .. => Unit
  | torrentRemove .. | sessionSet _ => Unit

/-- The arguments of a response to a command. -/
def Command.readArguments? : (command : Command) → Json → Option command.Arguments
  | torrentGet .., json => torrents? json
  | torrentAdd _, json => added? json
  | sessionStats, json => stats? json
  | freeSpace _, json => freeSpace? json
  | torrentRenamePath .., json => renamed? json
  | torrentSet .., json => nothing? json
  | torrentAction .., json => nothing? json
  | torrentRemove .., json => nothing? json
  | sessionSet _, json => nothing? json

/-! ### Responses -/

/-- A response: its arguments, and what it says of its success. -/
structure Response (α : Type) where
  arguments : α
  result : String

/-- The result of a command that succeeded. -/
def successText : String := "success"

/-- Whether a daemon reports success. -/
def Response.isOk {α : Type} (response : Response α) : Bool := response.result = successText

/-- The response to a command in the body of a reply. -/
def Command.readResponse? (command : Command) (body : List UInt8) :
    Option (Response command.Arguments) := do
  let members ← (← Json.parse? (← Text.ofUtf8? body)).members?
  let arguments ← members.required? command.readArguments? "arguments"
  let result ← members.required? Json.text? "result"
  some { arguments, result }

end TorrentRemote.Wire
