import TorrentRemote.Text.Quoted

/-!
# Torrent states

The four states a torrent can be in, with the names that filters use for them.
-/

namespace TorrentRemote

/-- What a torrent is doing. -/
inductive TorrentState where
  /-- Complete and uploading. -/
  | seeding
  /-- Incomplete and active. -/
  | downloading
  /-- Complete and stopped. -/
  | completed
  /-- Incomplete and stopped. -/
  | paused
  deriving DecidableEq, Inhabited

namespace TorrentState

/-- All states. -/
def all : List TorrentState := [.seeding, .downloading, .completed, .paused]

/-- The name of a state. -/
def name : TorrentState → String
  | .seeding => "seeding"
  | .downloading => "downloading"
  | .completed => "completed"
  | .paused => "paused"

/-- The state with the given name. -/
def ofName? (text : String) : Option TorrentState := all.find? fun state => state.name == text

/-- The message about a text that names no state. -/
def unknownMessage (text : String) : String := "unknown torrent state " ++ Text.quoted text

end TorrentState

end TorrentRemote
