import TorrentRemote.Daemon.Record

/-!
# Calls of a daemon

What a client can ask of a daemon, and what a successful answer holds.  A change names what is to
become different; what it does not name stays as it is.
-/

namespace TorrentRemote.Daemon

/-- A change of a speed limit: the number of KiB per second, and whether the limit is in force. -/
structure LimitChange where
  kib : Option Int64 := none
  enabled : Option Bool := none
  deriving DecidableEq

/-- The change to a limit in bytes per second.  A limit that is switched off keeps its number. -/
def LimitChange.ofBytes (bytes : Int64) : LimitChange :=
  let limit := SpeedLimit.ofBytes bytes
  ⟨if limit.enabled then some limit.kib else none, some limit.enabled⟩

/-- A change of a torrent's settings. -/
structure TorrentChange where
  labels : Option (List String) := none
  downloadLimit : LimitChange := {}
  uploadLimit : LimitChange := {}
  deriving DecidableEq

/-- Whether a change changes nothing. -/
def TorrentChange.isEmpty (change : TorrentChange) : Bool := change = {}

/-- A change of the daemon's settings. -/
structure SessionChange where
  downloadDir : Option String := none
  downLimit : LimitChange := {}
  upLimit : LimitChange := {}
  deriving DecidableEq

/-- A torrent to be added. -/
structure NewTorrent where
  /-- The torrent file in Base64. -/
  metainfo : String
  paused : Bool
  downloadDir : Option String
  labels : List String
  deriving DecidableEq

/-- A call of a daemon.  Torrents are named by their hashes. -/
inductive Call where
  /-- Asks for the named torrents, or for all. -/
  | getTorrents (hashes : Option (List String))
  | addTorrent (torrent : NewTorrent)
  | setTorrents (hashes : List String) (change : TorrentChange)
  /-- Gives a torrent with the stored name `path` another one. -/
  | renamePath (hash path name : String)
  | startTorrents (hashes : List String)
  | stopTorrents (hashes : List String)
  | removeTorrents (hashes : List String) (deleteFiles : Bool)
  | getSession
  | setSession (change : SessionChange)
  | getStats
  /-- Asks for the free space at a path, in bytes. -/
  | freeSpace (path : String)
  deriving DecidableEq

/-- What a successful answer to a call holds. -/
@[reducible] def Call.Answer : Call → Type
  | getTorrents _ => List TorrentRecord
  | addTorrent _ => AddOutcome
  | getSession => Session
  | getStats => Stats
  | freeSpace _ => Int64
  | setTorrents .. | renamePath .. | startTorrents _ | stopTorrents _ | removeTorrents ..
  | setSession _ => Unit

end TorrentRemote.Daemon
