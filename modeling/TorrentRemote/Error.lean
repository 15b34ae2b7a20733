import TorrentRemote.Text.Decimal
import TorrentRemote.Text.Quoted

/-!
# What can go wrong with a client

An operation on a torrent client fails for one of ten causes.  An operation on several torrents
collects the failures of the single ones; its message lists them in the order of the request.
-/

namespace TorrentRemote

/-- The cause of a failed operation. -/
inductive ClientError where
  /-- The daemon cannot be reached or its answer cannot be understood. -/
  | communication (detail : String)
  /-- The daemon asks for credentials. -/
  | unauthorized
  /-- The daemon answers that it failed. -/
  | server (detail : String)
  /-- The torrent is already there. -/
  | duplicateTorrent (infoHash : String)
  /-- There is no such torrent. -/
  | torrentNotFound (infoHash : String)
  /-- The torrent file is not accepted. -/
  | invalidTorrent (detail : String)
  /-- There is no setting of that name. -/
  | unknownSetting (name : String)
  /-- The setting does not take that value. -/
  | invalidValue (setting value : String)
  /-- Some torrents of several failed, each with its own cause. -/
  | batch (failures : List (String × ClientError))
  /-- Anything else. -/
  | other (detail : String)
  deriving Inhabited

namespace ClientError

mutual

/-- The message of an error. -/
def message : ClientError → String
  | communication detail => "communication error: " ++ detail
  | unauthorized => "authentication required"
  | server detail => "server error: " ++ detail
  | duplicateTorrent infoHash => "duplicate torrent: " ++ infoHash
  | torrentNotFound infoHash => "torrent not found: " ++ infoHash
  | invalidTorrent detail => "invalid torrent: " ++ detail
  | unknownSetting name => "unknown config variable: " ++ name
  | invalidValue setting value =>
    "invalid value " ++ Text.quoted value ++ " for config variable " ++ setting
  | batch failures =>
    "batch operation failed: " ++ Text.showNat failures.length ++ " item(s) failed" ++
      (if failures.isEmpty then "" else ": ") ++ String.intercalate "; " (failureTexts failures)
  | other detail => "unexpected error: " ++ detail

/-- The texts of the failures of a batch. -/
def failureTexts : List (String × ClientError) → List String
  | [] => []
  | failure :: failures => failureText failure :: failureTexts failures

/-- The torrent that failed, and why. -/
def failureText : String × ClientError → String
  | (infoHash, error) => infoHash ++ ": " ++ message error

end

end ClientError

/-- The outcome of a batch from its failures: success if there is none. -/
def batchOutcome (failures : List (String × ClientError)) : Except ClientError Unit :=
  if failures.isEmpty then .ok () else .error (.batch failures)

end TorrentRemote
