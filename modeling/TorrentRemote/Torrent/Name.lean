import TorrentRemote.Text.Ascii
import TorrentRemote.Text.Decimal
import TorrentRemote.Torrent.SideData

/-!
# Names that carry side data

A daemon without a field for side data stores it in the name of the torrent, as a suffix:

```text
Some.Release.Name__meta.dl_3600.rating_5
```

The suffix is the separator `__meta.` followed by tokens `key_number` that are joined by dots.  It
begins at the first separator after which only characters of the suffix alphabet follow, at least
one.  A token that is not of the expected form, or whose number is zero, is passed over; fields
after the number are ignored, and of two tokens with one key the later wins.
-/

namespace TorrentRemote.Name

/-- What stands between the display name and the encoded side data. -/
def separator : List Char := ['_', '_', 'm', 'e', 't', 'a', '.']

/-- A character that may occur in encoded side data. -/
def isSuffixChar (c : Char) : Bool :=
  c == '.' || c == '_' || c == '-' || Text.isAsciiAlphanumeric c

/-- The encoded side data of a text that begins with the separator and holds nothing else. -/
def suffixAt? (cs : List Char) : Option (List Char) :=
  match separator.isPrefixOf? cs with
  | some suffix => if suffix ≠ [] ∧ suffix.all isSuffixChar then some suffix else none
  | none => none

/-- The display name and the encoded side data of a text with a suffix. -/
def split? : List Char → Option (List Char × List Char)
  | [] => none
  | c :: cs =>
    match suffixAt? (c :: cs) with
    | some suffix => some ([], suffix)
    | none => (split? cs).map fun parts => (c :: parts.1, parts.2)

/-- The entry that a token stands for. -/
def entryOf? (token : List Char) : Option (String × Int64) :=
  match token.splitOn '_' with
  | key :: number :: _ =>
    if key ≠ [] ∧ key.all Text.isAsciiAlphanumeric then
      match Text.readInt64? number with
      | some value => if value ≠ 0 then some (String.ofList key, value) else none
      | none => none
    else none
  | _ => none

/-- The side data that encoded text stands for. -/
def sideDataOf (suffix : List Char) : SideData :=
  SideData.ofList ((suffix.splitOn '.').filterMap entryOf?)

/-- The display name and the side data of a stored name. -/
def decode (stored : String) : String × SideData :=
  match split? stored.toList with
  | some (name, suffix) => (String.ofList name, sideDataOf suffix)
  | none => (stored, .empty)

/-- The token that stands for an entry. -/
def token (entry : String × Int64) : List Char :=
  entry.1.toList ++ '_' :: Text.intDigits entry.2.toInt

/-- The stored name for a display name and side data.  Zeros are left out, and with them the
suffix if nothing remains. -/
def encode (name : String) (data : SideData) : String :=
  if data.nonzero.entries = [] then name
  else String.ofList
    (name.toList ++ separator ++ ['.'].intercalate (data.nonzero.entries.map token))

end TorrentRemote.Name
