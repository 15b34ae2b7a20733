import TorrentRemote.Display.Icon
import TorrentRemote.Display.Size
import TorrentRemote.Text.Columns
import TorrentRemote.Text.Lowercase

/-!
# The table of torrents

One line of headings, then one line for each torrent that passes the filter, in order.  The name
is fitted to a fixed number of terminal columns; the other cells are padded on the left to a number
of characters.  A filter keeps the torrents whose name or info hash contains it, whatever the case
of its letters; an empty filter keeps all.
-/

namespace TorrentRemote.Display

/-! ### Cells -/

/-- A text with spaces on its left up to a number of characters. -/
def alignRight (width : Nat) (s : String) : String :=
  String.ofList (List.replicate (width - s.length) ' ' ++ s.toList)

/-- A text with spaces on its right up to a number of characters. -/
def alignLeft (width : Nat) (s : String) : String :=
  String.ofList (s.toList ++ List.replicate (width - s.length) ' ')

/-- The longest beginning of a text whose characters take at most `budget` columns by a measure of
single characters. -/
def takeColumns (measure : Char → Nat) (budget : Nat) : List Char → List Char
  | [] => []
  | c :: cs => if measure c ≤ budget then c :: takeColumns measure (budget - measure c) cs else []

/-- The columns of the characters of a text, one by one. -/
def sumColumns (measure : Char → Nat) (cs : List Char) : Nat :=
  cs.foldr (fun c columns => measure c + columns) 0

/-- A text that is too wide, cut to `width` columns with two dots behind what is left. -/
def truncate (measure : Char → Nat) (width : Nat) (cs : List Char) : List Char :=
  let dots := min width 2
  let budget := width - dots
  let kept := takeColumns measure budget cs
  kept ++ List.replicate dots '.' ++ List.replicate (budget - sumColumns measure kept) ' '

/-- A text padded or cut to `width` columns. -/
def fitWidth (width : Nat) (s : String) : String :=
  if Text.columns s ≤ width then
    String.ofList (s.toList ++ List.replicate (width - Text.columns s) ' ')
  else String.ofList (truncate Text.charColumns width s.toList)

/-! ### Lines -/

/-- The columns of the cell that holds a name. -/
def nameWidth : Nat := 40

/-- Cells side by side. -/
def joinCells (cells : List String) : String := String.intercalate "  " cells

/-- The line of headings. -/
def header : String :=
  joinCells [alignLeft nameWidth "Name", alignRight 40 "InfoHash", alignRight 10 "Size",
    alignRight 6 "State", alignRight 12 "↓S", alignRight 12 "↑S", alignRight 25 "Tracker"]

/-- The line of a torrent. -/
def row (torrent : Torrent) : String :=
  joinCells [fitWidth nameWidth torrent.name, alignRight 40 torrent.infoHash,
    alignRight 10 (size torrent.size), alignRight 6 (icon torrent),
    alignRight 10 (size torrent.downloadSpeed) ++ "/s",
    alignRight 10 (size torrent.uploadSpeed) ++ "/s", alignRight 25 torrent.trackerDomain]

/-- Whether a list contains another as a block of neighbours. -/
def containsBlock (part : List Char) : List Char → Bool
  | [] => part.isEmpty
  | c :: cs => part.isPrefixOf (c :: cs) || containsBlock part cs

/-- Whether a text contains another. -/
def containsText (s part : String) : Bool := containsBlock part.toList s.toList

/-- Whether a torrent passes a filter. -/
def isListed (filter : Option String) (torrent : Torrent) : Bool :=
  match filter with
  | none => true
  | some filter =>
    filter == "" || containsText (Text.lowercase torrent.name) (Text.lowercase filter) ||
      containsText (Text.lowercase torrent.infoHash) (Text.lowercase filter)

/-- The table of the torrents that pass a filter; every line ends with a line feed. -/
def table (torrents : List Torrent) (filter : Option String) : String :=
  String.join ((header :: (torrents.filter (isListed filter)).map row).map (· ++ "\n"))

end TorrentRemote.Display
