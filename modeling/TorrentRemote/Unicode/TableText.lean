import TorrentRemote.Text.Ascii

/-!
# Reading tables

Large tables are kept as text: entries separated by white space, each a hexadecimal code point, a
capital letter, and hexadecimal code points joined by dots.
-/

namespace TorrentRemote.Unicode

/-- An entry of a table. -/
structure TableEntry where
  code : Nat
  letter : Char
  codes : List Nat

/-- The value of hexadecimal digits; other characters are passed over. -/
def hexCode (cs : List Char) : Nat :=
  (cs.filterMap Text.hexValue?).foldl (fun value digit => 16 * value + digit) 0

/-- A lower case hexadecimal digit. -/
def isTableDigit (c : Char) : Bool := c.isDigit || ('a' ≤ c && c ≤ 'f')

/-- The entry that a text stands for. -/
def tableEntry? (cs : List Char) : Option TableEntry :=
  match cs.dropWhile isTableDigit with
  | [] => none
  | letter :: rest =>
    some ⟨hexCode (cs.takeWhile isTableDigit), letter,
      if rest.isEmpty then [] else (rest.splitOn '.').map hexCode⟩

/-- The entries of a table. -/
def readTable (text : String) : List TableEntry :=
  (text.toList.splitOnP fun c => c == ' ' || c == '\n').filterMap tableEntry?

end TorrentRemote.Unicode
