import TorrentRemote.Daemon.Record
import TorrentRemote.Error
import TorrentRemote.Wire.Connection

/-!
# Responses as answers

What becomes of a response: errors are told in the terms of a client, and what is missing in a
torrent is empty or zero.
-/

namespace TorrentRemote.Rpc

open Daemon (TorrentRecord TorrentRef Stats AddOutcome)

/-! ### Errors -/

/-- The error of a client for a failure of the HTTP client. -/
def Failure.toError (endpoint : Endpoint) (failure : Failure) : ClientError :=
  let text := failure.message endpoint
  if failure.status = some unauthorizedStatus then .unauthorized
  else if failure.timedOut then .communication ("request timed out: " ++ text)
  else if failure.undecodable then .communication ("invalid response: " ++ text)
  else .communication text

/-- The error of a client for a command that fails. -/
def toClientError (endpoint : Endpoint) : Wire.CallError → ClientError
  | .http failure => failure.toError endpoint
  | .other text => .communication text

/-- The arguments of a response, if the daemon reports success. -/
def argumentsOf {α : Type} (response : Wire.Response α) : Except ClientError α :=
  if response.isOk then .ok response.arguments else .error (.server response.result)

/-! ### Answers -/

/-- A count as a signed integer, cut down to the greatest one. -/
def saturate (count : UInt64) : Int64 := Int64.ofIntClamp count.toNat

/-- The record of a torrent. -/
def recordOf (torrent : Wire.Torrent) : TorrentRecord where
  hash := torrent.hash.getD ""
  name := torrent.name.getD ""
  status := torrent.status.getD 0
  addedDate := torrent.addedDate.getD 0
  doneDate := torrent.doneDate.getD 0
  labels := torrent.labels.getD []
  sizeWhenDone := torrent.sizeWhenDone.getD 0
  leftUntilDone := torrent.leftUntilDone.getD 0
  downloadedEver := (torrent.downloadedEver.map saturate).getD 0
  uploadedEver := torrent.uploadedEver.getD 0
  rateDownload := torrent.rateDownload.getD 0
  rateUpload := torrent.rateUpload.getD 0
  downloadLimit := {
    kib := (torrent.downloadLimit.map saturate).getD 0
    enabled := torrent.downloadLimited.getD false }
  uploadLimit := {
    kib := (torrent.uploadLimit.map saturate).getD 0
    enabled := torrent.uploadLimited.getD false }
  trackers := (torrent.trackers.getD []).map fun tracker =>
    ⟨tracker.announce, tracker.seederCount, tracker.leecherCount⟩

/-- The record of a torrent in JSON. -/
def torrent? (json : Json) : Option TorrentRecord := (Wire.torrent? json).map recordOf

/-- The hash and the stored name of a torrent. -/
def refOf (record : TorrentRecord) : TorrentRef := ⟨record.hash, record.name⟩

/-- What became of a torrent that was to be added. -/
def addOutcome : Wire.Added → Except ClientError AddOutcome
  | .added torrent => .ok (.added (refOf (recordOf torrent)))
  | .duplicate torrent => .ok (.duplicate (refOf (recordOf torrent)))
  | .error => .error (.invalidTorrent "No torrent returned")

/-- The statistics. -/
def statsOf (stats : Wire.SessionStats) : Stats where
  downloadSpeed := stats.downloadSpeed
  uploadSpeed := stats.uploadSpeed
  torrentCount := stats.torrentCount.toInt64

end TorrentRemote.Rpc
