import TorrentRemote.Text.Ascii

/-!
# Percent encoding

A byte is written as a percent sign and two hexadecimal digits.  Which characters are written so
depends on the part of the URL; those outside ASCII and control characters always are.
-/

namespace TorrentRemote.Url

/-- The two upper case hexadecimal digits of a byte. -/
def upperHex (byte : UInt8) : List Char :=
  [(Text.hexDigit (byte.toNat / 16)).toUpper, (Text.hexDigit (byte.toNat % 16)).toUpper]

/-- The bytes of a text. -/
def utf8 (cs : List Char) : List UInt8 := (String.ofList cs).toUTF8.toList

/-- A text in which control characters, characters outside ASCII and the given characters are
written byte by byte. -/
def percentEncode (special : List Char) (cs : List Char) : List Char :=
  cs.flatMap fun c =>
    if c.toNat < 0x20 || 0x7E < c.toNat || c ∈ special then
      (utf8 [c]).flatMap fun byte => '%' :: upperHex byte
    else [c]

/-- The bytes that a text stands for.  A percent sign that two hexadecimal digits do not follow
stands for itself. -/
def percentDecode : List Char → List UInt8
  | '%' :: a :: b :: cs =>
    match Text.hexValue? a, Text.hexValue? b with
    | some high, some low => UInt8.ofNat (16 * high + low) :: percentDecode cs
    | _, _ => 0x25 :: percentDecode (a :: b :: cs)
  | c :: cs => utf8 [c] ++ percentDecode cs
  | [] => []

/-- The text that a text stands for, if its bytes are UTF-8. -/
def percentDecodeText? (cs : List Char) : Option (List Char) :=
  (String.fromUTF8? (percentDecode cs).toByteArray).map String.toList

/-- Characters that are encoded in a fragment. -/
def fragmentSpecial : List Char := [' ', '"', '<', '>', '`']

/-- Characters that are encoded in a path. -/
def pathSpecial : List Char := ['#', '?', '\x7b', '\x7d'] ++ fragmentSpecial

/-- Characters that are encoded in a user name and a password. -/
def userSpecial : List Char := ['/', ':', ';', '=', '@', '[', '\\', ']', '^', '|'] ++ pathSpecial

/-- Characters that are encoded in a query. -/
def querySpecial (isSpecial : Bool) : List Char :=
  [' ', '"', '#', '<', '>'] ++ if isSpecial then ['\''] else []

end TorrentRemote.Url
