import TorrentRemote.Json.Raw
import TorrentRemote.Text.Decimal

/-!
# Reading the fields of a record

A field is read by its key.  A key must not occur twice.  Some fields may be missing, and for some a
null counts as missing.  Keys that are not asked for are ignored.  A record is an object, or an
array that has the values of the fields in their order.
-/

namespace TorrentRemote.Json

/-- Fields by their keys, in order. -/
abbrev Fields (β : Type) := List (String × β)

/-- The members of an object. -/
abbrev Members := Fields Json

/-! ### Values -/

/-- The members of a value, if it is an object. -/
def members? : Json → Option Members
  | object members => some members
  | _ => none

/-- The items of a value, if it is an array. -/
def items? : Json → Option (List Json)
  | array items => some items
  | _ => none

/-- A text. -/
def text? : Json → Option String
  | string value => some value
  | _ => none

/-- A truth value. -/
def bool? : Json → Option Bool
  | bool value => some value
  | _ => none

/-- A whole number between two bounds. -/
def integer? (least greatest : Int) : Json → Option Int
  | integer value => if least ≤ value ∧ value ≤ greatest then some value else none
  | _ => none

/-- A signed 64-bit integer. -/
def int64? : Json → Option Int64
  | integer value => Text.toInt64? value
  | _ => none

/-- A signed 32-bit integer. -/
def int32? (json : Json) : Option Int32 :=
  (json.integer? Int32.minValue.toInt Int32.maxValue.toInt).map Int32.ofInt

/-- An unsigned 64-bit integer. -/
def uint64? (json : Json) : Option UInt64 :=
  (json.integer? 0 (UInt64.size - 1)).map fun value => UInt64.ofNat value.toNat

/-- A list of things that are read in one way. -/
def list? {α : Type} (read : Json → Option α) (json : Json) : Option (List α) :=
  json.items?.bind fun items => items.mapM read

/-- What may be null. -/
def nullable? {α : Type} (read : Json → Option α) : Json → Option (Option α)
  | null => some none
  | json => (read json).map some

namespace Raw

/-- A truth value. -/
def bool? : Raw → Option Bool
  | bool value => some value
  | _ => none

/-- A signed 64-bit integer. -/
def int64? : Raw → Option Int64
  | integer value => Text.toInt64? value
  | _ => none

/-- What may be null. -/
def nullable? {α : Type} (read : Raw → Option α) : Raw → Option (Option α)
  | null => some none
  | raw => (read raw).map some

/-- The fields of a record with the given keys.  In an array, the last fields may be missing as long
as `least` are there. -/
def fields? (keys : List String) (least : Nat) : Raw → Option (Fields Raw)
  | object members => members.mapM fun (key, value) => (textOf? key).map fun name => (name, value)
  | array items =>
    if least ≤ items.length ∧ items.length ≤ keys.length then some (keys.zip items) else none
  | _ => none

end Raw

/-! ### Fields -/

namespace Fields

variable {α β : Type}

/-- The values under a key. -/
def valuesAt (fields : Fields β) (key : String) : List β :=
  (fields.filter fun field => field.1 == key).map Prod.snd

/-- The value of a field that has to be there. -/
def required? (read : β → Option α) (fields : Fields β) (key : String) : Option α :=
  match fields.valuesAt key with
  | [value] => read value
  | _ => none

/-- The value of a field that may be missing, or the default. -/
def optional? (read : β → Option α) (default : α) (fields : Fields β) (key : String) : Option α :=
  match fields.valuesAt key with
  | [] => some default
  | [value] => read value
  | _ => none

/-- The value of a member that may be missing or null. -/
def nullable? (read : Json → Option α) (members : Members) (key : String) : Option (Option α) :=
  members.optional? (Json.nullable? read) none key

end Fields

end TorrentRemote.Json
