import TorrentRemote.Text.Decimal
import TorrentRemote.Torrent.Basic

/-!
# State signs

A short sign for the state of a torrent.  A torrent that is being downloaded shows how much of it
is there, in whole percent rounded down and at most 100, or a question mark if its size is not
known.
-/

namespace TorrentRemote.Display

/-- The percentage of a torrent that is there, if its size is known. -/
def percent? (torrent : Torrent) : Option Nat :=
  if torrent.size.toInt ≤ 0 then none
  else some <| min 100 (torrent.sizeCompleted.toInt.toNat * 100 / torrent.size.toInt.toNat)

/-- The sign for the state of a torrent. -/
def icon (torrent : Torrent) : String :=
  match torrent.state with
  | .downloading =>
    match percent? torrent with
    | none => "↓?%"
    | some percent => "↓" ++ Text.showNat percent ++ "%"
  | .seeding => "↑U"
  | .paused => "-P"
  | .completed => "✓C"

end TorrentRemote.Display
