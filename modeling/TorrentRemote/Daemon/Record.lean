import TorrentRemote.Torrent.SpeedLimit

/-!
# What a daemon tells

Torrents, session settings and statistics as a Transmission daemon reports them.  Limits are in
KiB per second, all other speeds in bytes per second.
-/

namespace TorrentRemote.Daemon

/-- A tracker of a torrent. -/
structure Tracker where
  announce : String
  seeders : Int64
  leechers : Int64
  deriving DecidableEq

/-- A torrent as the daemon reports it. -/
structure TorrentRecord where
  hash : String
  /-- The stored name, side data included. -/
  name : String
  /-- The status code: 0 is stopped, 3 and 4 download, 5 and 6 seed, others verify. -/
  status : Int64
  addedDate : Int64
  doneDate : Int64
  labels : List String
  sizeWhenDone : Int64
  leftUntilDone : Int64
  downloadedEver : Int64
  uploadedEver : Int64
  rateDownload : Int64
  rateUpload : Int64
  downloadLimit : SpeedLimit
  uploadLimit : SpeedLimit
  trackers : List Tracker
  deriving DecidableEq

/-- The hash and the stored name of a torrent. -/
structure TorrentRef where
  hash : String
  name : String
  deriving DecidableEq

/-- What became of a torrent that was to be added. -/
inductive AddOutcome where
  | added (torrent : TorrentRef)
  | duplicate (torrent : TorrentRef)
  deriving DecidableEq

/-- The settings of the daemon. -/
structure Session where
  downloadDir : String
  downLimit : SpeedLimit
  upLimit : SpeedLimit
  deriving DecidableEq

/-- The statistics of the daemon. -/
structure Stats where
  downloadSpeed : Int64
  uploadSpeed : Int64
  torrentCount : Int64
  deriving DecidableEq

end TorrentRemote.Daemon
