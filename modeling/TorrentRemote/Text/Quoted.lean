import TorrentRemote.Text.Ascii
import TorrentRemote.Unicode.GraphemeExtend
import TorrentRemote.Unicode.Unprintable

/-!
# Quoted texts

Messages show foreign text between double quotes.  Quotes, backslashes and the common control
characters are written with a backslash; a character that has no printed form of its own, or that
would attach to its neighbour, is written by its number.
-/

namespace TorrentRemote.Text

/-- The escape that gives the number of a character. -/
def numberEscape (c : Char) : List Char :=
  ['\\', 'u', '\x7b'] ++ hexDigits c.toNat ++ ['\x7d']

/-- A character as it stands inside a quoted text. -/
def quotedChar (c : Char) : List Char :=
  match c with
  | '\x00' => ['\\', '0']
  | '\t' => ['\\', 't']
  | '\r' => ['\\', 'r']
  | '\n' => ['\\', 'n']
  | '"' => ['\\', '"']
  | '\\' => ['\\', '\\']
  | c =>
    if Unicode.graphemeExtend.contains c || Unicode.unprintable.contains c then numberEscape c
    else [c]

/-- A text between double quotes. -/
def quoted (s : String) : String :=
  String.ofList ('"' :: s.toList.flatMap quotedChar ++ ['"'])

end TorrentRemote.Text
