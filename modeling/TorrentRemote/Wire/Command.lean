import TorrentRemote.Json.Basic

/-!
# Commands for a daemon

What a daemon can be asked over a connection, and the JSON of each command: the name of a method and
its arguments.  Arguments that are not given are left out.  Torrents are named by their hashes.
-/

namespace TorrentRemote.Wire

/-- A torrent to be added. -/
structure TorrentAdd where
  metainfo : Option String := none
  paused : Option Bool := none
  downloadDir : Option String := none
  labels : Option (List String) := none

/-- A change of a torrent.  Limits are in KiB per second. -/
structure TorrentSet where
  labels : Option (List String) := none
  downloadLimit : Option UInt64 := none
  downloadLimited : Option Bool := none
  uploadLimit : Option UInt64 := none
  uploadLimited : Option Bool := none

/-- A change of the settings.  Limits are in KiB per second. -/
structure SessionSet where
  downloadDir : Option String := none
  speedLimitDown : Option Int32 := none
  speedLimitDownEnabled : Option Bool := none
  speedLimitUp : Option Int32 := none
  speedLimitUpEnabled : Option Bool := none

/-- What can be done with torrents that takes no arguments. -/
inductive Action where
  | start
  | stop

/-- A command. -/
inductive Command where
  | torrentGet (fields : List String) (ids : Option (List String))
  | torrentAdd (torrent : TorrentAdd)
  | torrentSet (change : TorrentSet) (ids : List String)
  | torrentRenamePath (ids : List String) (path name : String)
  | torrentAction (action : Action) (ids : List String)
  | torrentRemove (ids : List String) (deleteLocalData : Bool)
  | sessionSet (change : SessionSet)
  | sessionStats
  | freeSpace (path : String)

/-- Texts as a JSON array. -/
def stringsToJson (texts : List String) : Json := .array (texts.map .string)

/-- A member of an object, if there is a value for it. -/
def member? {α : Type} (key : String) (encode : α → Json) (value : Option α) :
    List (String × Json) :=
  match value with
  | some a => [(key, encode a)]
  | none => []

/-- The arguments that add a torrent. -/
def TorrentAdd.arguments (torrent : TorrentAdd) : List (String × Json) :=
  member? "metainfo" .string torrent.metainfo ++
    member? "paused" .bool torrent.paused ++
    member? "download-dir" .string torrent.downloadDir ++
    member? "labels" stringsToJson torrent.labels

/-- The arguments that change a torrent. -/
def TorrentSet.arguments (change : TorrentSet) : List (String × Json) :=
  let limit (kib : UInt64) : Json := .integer kib.toNat
  member? "labels" stringsToJson change.labels ++
    member? "downloadLimit" limit change.downloadLimit ++
    member? "downloadLimited" .bool change.downloadLimited ++
    member? "uploadLimit" limit change.uploadLimit ++
    member? "uploadLimited" .bool change.uploadLimited

/-- The arguments that change the settings. -/
def SessionSet.arguments (change : SessionSet) : List (String × Json) :=
  let limit (kib : Int32) : Json := .integer kib.toInt
  member? "download-dir" .string change.downloadDir ++
    member? "speed-limit-down" limit change.speedLimitDown ++
    member? "speed-limit-down-enabled" .bool change.speedLimitDownEnabled ++
    member? "speed-limit-up" limit change.speedLimitUp ++
    member? "speed-limit-up-enabled" .bool change.speedLimitUpEnabled

namespace Command

/-- The name of the method of a command. -/
def method : Command → String
  | torrentGet .. => "torrent-get"
  | torrentAdd _ => "torrent-add"
  | torrentSet .. => "torrent-set"
  | torrentRenamePath .. => "torrent-rename-path"
  | torrentAction .start _ => "torrent-start"
  | torrentAction .stop _ => "torrent-stop"
  | torrentRemove .. => "torrent-remove"
  | sessionSet _ => "session-set"
  | sessionStats => "session-stats"
  | freeSpace _ => "free-space"

/-- The arguments of a command; the statistics are asked for without. -/
def arguments? : Command → Option (List (String × Json))
  | torrentGet fields ids =>
    some ([("fields", stringsToJson fields)] ++ member? "ids" stringsToJson ids)
  | torrentAdd torrent => some torrent.arguments
  | torrentSet change ids => some (("ids", stringsToJson ids) :: change.arguments)
  | torrentRenamePath ids path name =>
    some [("ids", stringsToJson ids), ("path", .string path), ("name", .string name)]
  | torrentAction _ ids => some [("ids", stringsToJson ids)]
  | torrentRemove ids deleteLocalData =>
    some [("ids", stringsToJson ids), ("delete-local-data", .bool deleteLocalData)]
  | sessionSet change => some change.arguments
  | sessionStats => none
  | freeSpace path => some [("path", .string path)]

/-- The body of the request for a command. -/
def body (command : Command) : Json :=
  .object ([("method", .string command.method)] ++ member? "arguments" .object command.arguments?)

end Command

end TorrentRemote.Wire
