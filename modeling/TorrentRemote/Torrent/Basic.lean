import TorrentRemote.Torrent.SideData
import TorrentRemote.Torrent.State

/-!
# Torrents

A torrent as every client reports it, whatever daemon is behind the client, and the tag that
records from which site a torrent came.
-/

namespace TorrentRemote

/-- A torrent at one moment.  Sizes are in bytes and speeds in bytes per second; a limit of -1 is
no limit, and a count of -1 is not known. -/
structure Torrent where
  infoHash : String
  /-- The display name, without encoded side data. -/
  name : String
  trackerDomain : String
  state : TorrentState
  /-- When the torrent was added, in seconds of Unix time. -/
  addedTime : Int64
  /-- When the download ended, in seconds of Unix time, or 0. -/
  completedTime : Int64
  category : String
  tags : List String
  downloaded : Int64
  downloadSpeed : Int64
  downloadSpeedLimit : Int64
  uploaded : Int64
  uploadSpeed : Int64
  uploadSpeedLimit : Int64
  size : Int64
  sizeCompleted : Int64
  seeders : Int64
  leechers : Int64
  sideData : SideData
  deriving DecidableEq

namespace Torrent

/-- Whether a torrent passes a filter by state and by category; no filter passes everything. -/
def matchesFilter (torrent : Torrent) (state : Option TorrentState) (category : Option String) :
    Bool :=
  state.all (· == torrent.state) && category.all (· == torrent.category)

/-- What a tag that names a site begins with. -/
def sitePrefix : String := "site:"

/-- The tag for a site. -/
def siteTag (site : String) : String := sitePrefix ++ site

/-- The site that the first site tag in a list names. -/
def siteOfTags (tags : List String) : Option String :=
  tags.findSome? fun tag =>
    (sitePrefix.toList.isPrefixOf? tag.toList).map String.ofList

/-- The site a torrent came from, if a tag records it. -/
def site? (torrent : Torrent) : Option String := siteOfTags torrent.tags

end Torrent

/-- What is asked of a torrent when it is added or modified.  A modification leaves alone what is
not given. -/
structure TorrentOption where
  name : Option String := none
  /-- The empty text removes the category. -/
  category : Option String := none
  tags : Option (List String) := none
  /-- In bytes per second; zero or less removes the limit. -/
  downloadSpeedLimit : Option Int64 := none
  /-- In bytes per second; zero or less removes the limit. -/
  uploadSpeedLimit : Option Int64 := none
  paused : Option Bool := none

/-- The state of a client as a whole.  Speeds are in bytes per second; a limit of 0 is no limit. -/
structure Status where
  freeSpace : Int64
  downloadSpeed : Int64
  uploadSpeed : Int64
  downloadSpeedLimit : Int64
  uploadSpeedLimit : Int64
  /-- Whether automatic tasks must not add torrents. -/
  noAdd : Bool
  deriving DecidableEq

end TorrentRemote
