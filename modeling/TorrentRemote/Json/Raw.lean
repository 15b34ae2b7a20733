import TorrentRemote.Json.Basic
import TorrentRemote.Text.Utf8

/-!
# JSON values before their texts are read

A JSON value whose strings are kept as they were written.  A string is read as a text only where
somebody asks for it, and may fail then: its bytes need not be UTF-8, and its escapes need not make
up characters.  A string that nobody asks for does no harm.
-/

namespace TorrentRemote.Json

/-- A piece of a string as it is written. -/
inductive Piece where
  /-- A byte that stands for itself. -/
  | byte (value : UInt8)
  /-- An escape, by its UTF-16 code unit. -/
  | unit (value : UInt16)
  deriving DecidableEq

/-- A JSON value with strings as they are written. -/
inductive Raw where
  | null
  | bool (value : Bool)
  /-- A number without fraction and exponent. -/
  | integer (value : Int)
  /-- A number with a fraction or an exponent, or a negative zero, by its text. -/
  | decimal (text : String)
  | string (pieces : List Piece)
  | array (items : List Raw)
  | object (members : List (List Piece × Raw))

/-! ### Strings -/

/-- Whether a code unit is the first of a pair. -/
def isHigh (unit : UInt16) : Bool := 0xD800 ≤ unit && unit ≤ 0xDBFF

/-- Whether a code unit is the second of a pair. -/
def isLow (unit : UInt16) : Bool := 0xDC00 ≤ unit && unit ≤ 0xDFFF

/-- The character that a pair of code units stands for. -/
def pairChar (high low : UInt16) : Char :=
  Char.ofNat (0x10000 + (high.toNat - 0xD800) * 0x400 + (low.toNat - 0xDC00))

/-- The bytes that the pieces of a string stand for, if the units of its escapes make up characters.
`high` is the first unit of a pair whose second one has to follow. -/
def bytes? : (high : Option UInt16) → List Piece → Option (List UInt8)
  | none, [] => some []
  | none, .byte value :: pieces => (bytes? none pieces).map (value :: ·)
  | none, .unit value :: pieces =>
    if isHigh value then bytes? (some value) pieces
    else if isLow value then none
    else (bytes? none pieces).map (String.utf8EncodeChar (Char.ofNat value.toNat) ++ ·)
  | some high, .unit value :: pieces =>
    if isLow value then
      (bytes? none pieces).map (String.utf8EncodeChar (pairChar high value) ++ ·)
    else none
  | some _, _ => none

/-- The text that the pieces of a string stand for. -/
def textOf? (pieces : List Piece) : Option String := (bytes? none pieces).bind Text.ofUtf8?

/-! ### Values -/

namespace Raw

/-- A text. -/
def text? : Raw → Option String
  | string pieces => textOf? pieces
  | _ => none

mutual

/-- The value with all of its strings read. -/
def toJson? : Raw → Option Json
  | null => some .null
  | bool value => some (.bool value)
  | integer value => some (.integer value)
  | decimal text => some (.decimal text)
  | string pieces => (textOf? pieces).map .string
  | array items => (itemsToJson? items).map .array
  | object members => (membersToJson? members).map .object

/-- The items of an array with all of their strings read. -/
def itemsToJson? : List Raw → Option (List Json)
  | [] => some []
  | item :: items => do some ((← toJson? item) :: (← itemsToJson? items))

/-- The members of an object with all of their strings read. -/
def membersToJson? : List (List Piece × Raw) → Option (List (String × Json))
  | [] => some []
  | member :: members => do some ((← memberToJson? member) :: (← membersToJson? members))

/-- A member of an object with its key and all of its strings read. -/
def memberToJson? : List Piece × Raw → Option (String × Json)
  | (key, value) => do some (← textOf? key, ← toJson? value)

end

end Raw

end TorrentRemote.Json
