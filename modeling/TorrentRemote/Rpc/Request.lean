import TorrentRemote.Daemon.Call
import TorrentRemote.Wire.Command

/-!
# Calls as commands

What is sent for each call of a daemon.  Limits are whole numbers of KiB per second: those of a
torrent are not negative, and those of the settings have 32 bits, so greater ones are cut down.
-/

namespace TorrentRemote.Rpc

open Daemon (NewTorrent TorrentChange SessionChange)
open Wire (TorrentAdd TorrentSet SessionSet)

/-- The fields that are asked for of a torrent. -/
def torrentFields : List String :=
  ["hashString", "name", "status", "addedDate", "doneDate", "labels", "sizeWhenDone",
    "leftUntilDone", "downloadedEver", "uploadedEver", "rateDownload", "rateUpload",
    "downloadLimit", "downloadLimited", "uploadLimit", "uploadLimited", "trackerStats"]

/-- The fields that are asked for of the settings. -/
def sessionFields : List String :=
  ["download-dir", "speed-limit-down", "speed-limit-down-enabled", "speed-limit-up",
    "speed-limit-up-enabled"]

/-- The limit of a torrent as it is sent. -/
def torrentLimit (kib : Int64) : UInt64 := if 0 ≤ kib then kib.toUInt64 else 0

/-- The limit for all torrents together as it is sent. -/
def sessionLimit (kib : Int64) : Int32 :=
  if max 0 kib ≤ Int32.maxValue.toInt64 then (max 0 kib).toInt32 else Int32.maxValue

/-- What adds a torrent. -/
def torrentAdd (torrent : NewTorrent) : TorrentAdd where
  metainfo := some torrent.metainfo
  paused := some torrent.paused
  downloadDir := torrent.downloadDir
  labels := if torrent.labels = [] then none else some torrent.labels

/-- What changes a torrent. -/
def torrentSet (change : TorrentChange) : TorrentSet where
  labels := change.labels
  downloadLimit := change.downloadLimit.kib.map torrentLimit
  downloadLimited := change.downloadLimit.enabled
  uploadLimit := change.uploadLimit.kib.map torrentLimit
  uploadLimited := change.uploadLimit.enabled

/-- What changes the settings. -/
def sessionSet (change : SessionChange) : SessionSet where
  downloadDir := change.downloadDir
  speedLimitDown := change.downLimit.kib.map sessionLimit
  speedLimitDownEnabled := change.downLimit.enabled
  speedLimitUp := change.upLimit.kib.map sessionLimit
  speedLimitUpEnabled := change.upLimit.enabled

/-- The arguments that change the settings. -/
def sessionArguments (change : SessionChange) : List (String × Json) :=
  (sessionSet change).arguments

/-- The request for the settings. -/
def sessionQuery : Json :=
  .object [("method", .string "session-get"),
    ("arguments", .object [("fields", Wire.stringsToJson sessionFields)])]

end TorrentRemote.Rpc
