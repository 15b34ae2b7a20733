import TorrentRemote.Unicode.Ranges

/-!
# Blank characters and trimming

A character is blank if it has the property `White_Space`.  Trimming removes blank characters
from both ends of a text and nothing else.
-/

namespace TorrentRemote.Text

/-- The property `White_Space`. -/
def blanks : Unicode.Ranges :=
  [(0x09, 0x0D), (0x20, 0x20), (0x85, 0x85), (0xA0, 0xA0), (0x1680, 0x1680), (0x2000, 0x200A),
   (0x2028, 0x2029), (0x202F, 0x202F), (0x205F, 0x205F), (0x3000, 0x3000)]

/-- Whether a character is blank. -/
def isBlank (c : Char) : Bool := blanks.contains c

/-- The characters between the first and the last that are not blank. -/
def trimChars (cs : List Char) : List Char :=
  ((cs.dropWhile isBlank).reverse.dropWhile isBlank).reverse

/-- The text without blank characters at its ends. -/
def trim (s : String) : String := String.ofList (trimChars s.toList)

end TorrentRemote.Text
