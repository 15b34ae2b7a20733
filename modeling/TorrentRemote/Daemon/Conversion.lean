import TorrentRemote.Daemon.Record
import TorrentRemote.Torrent.Basic
import TorrentRemote.Torrent.Labels
import TorrentRemote.Torrent.Name
import TorrentRemote.Url.Parser

/-!
# From the daemon's view to the client's

A torrent record becomes a torrent: the stored name is taken apart into display name and side data,
the labels into category and tags, and the status code becomes one of four states.  Sizes are made
consistent: a size is never negative, and what is there is never more than the size.
-/

namespace TorrentRemote.Daemon

/-- The state for a status code and whether the torrent is complete. -/
def stateOf (status : Int64) (complete : Bool) : TorrentState :=
  if status = 0 then (if complete then .completed else .paused)
  else if status = 3 ∨ status = 4 then .downloading
  else if status = 5 ∨ status = 6 then .seeding
  else if complete then .seeding
  else .downloading

namespace TorrentRecord

/-- The size of a torrent in bytes. -/
def size (record : TorrentRecord) : Int64 := max 0 record.sizeWhenDone

/-- How much of a torrent is there.  The difference is that of 64-bit integers, and wraps around if
it does not fit. -/
def sizeCompleted (record : TorrentRecord) : Int64 :=
  max 0 (min (record.size - record.leftUntilDone) record.size)

/-- Whether all of a torrent is there. -/
def isComplete (record : TorrentRecord) : Bool := 0 < record.size && record.leftUntilDone ≤ 0

/-- The state of a torrent. -/
def state (record : TorrentRecord) : TorrentState := stateOf record.status record.isComplete

/-- The host of the first tracker. -/
def trackerDomain (record : TorrentRecord) : String :=
  match record.trackers with
  | [] => ""
  | tracker :: _ => (Url.hostOf? tracker.announce).getD ""

/-- The torrent that a record describes. -/
def toTorrent (record : TorrentRecord) : Torrent where
  infoHash := record.hash
  name := (Name.decode record.name).1
  trackerDomain := record.trackerDomain
  state := record.state
  addedTime := record.addedDate
  completedTime := if record.state = .completed then record.doneDate else 0
  category := Labels.categoryOf record.labels
  tags := Labels.tagsOf record.labels
  downloaded := record.downloadedEver
  downloadSpeed := record.rateDownload
  downloadSpeedLimit := record.downloadLimit.toBytes
  uploaded := record.uploadedEver
  uploadSpeed := record.rateUpload
  uploadSpeedLimit := record.uploadLimit.toBytes
  size := record.size
  sizeCompleted := record.sizeCompleted
  seeders := (record.trackers.head?.map Tracker.seeders).getD (-1)
  leechers := (record.trackers.head?.map Tracker.leechers).getD (-1)
  sideData := (Name.decode record.name).2

end TorrentRecord

/-- A limit for all torrents together in bytes per second, or 0 if it is not in force. -/
def globalLimit (limit : SpeedLimit) : Int64 :=
  if limit.toBytes.toInt < 0 then 0 else limit.toBytes

/-- The status of a client from what its daemon tells. -/
def statusOf (session : Session) (stats : Stats) (freeSpace : Int64) (noAdd : Bool) : Status where
  freeSpace
  downloadSpeed := stats.downloadSpeed
  uploadSpeed := stats.uploadSpeed
  downloadSpeedLimit := globalLimit session.downLimit
  uploadSpeedLimit := globalLimit session.upLimit
  noAdd

end TorrentRemote.Daemon
