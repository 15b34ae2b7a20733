/-!
# Texts as bytes

The UTF-8 bytes of a text, and bytes as a reader of ASCII syntax sees them: each byte as the
character of its number.
-/

namespace TorrentRemote.Text

/-- The UTF-8 bytes of a text. -/
def utf8 (text : String) : List UInt8 := text.toUTF8.data.toList

/-- The text with these UTF-8 bytes, if they are valid. -/
def ofUtf8? (bytes : List UInt8) : Option String := String.fromUTF8? ⟨bytes.toArray⟩

/-- Bytes as characters. -/
def byteChars (bytes : List UInt8) : List Char := bytes.map fun byte => Char.ofNat byte.toNat

end TorrentRemote.Text
