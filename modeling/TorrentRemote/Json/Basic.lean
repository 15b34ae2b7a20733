/-!
# JSON values

A JSON value as it was written: the members of an object keep their order, and a key may occur
more than once.  A number written as a whole number is kept apart from one with a fraction or an
exponent, whatever its value.
-/

namespace TorrentRemote

/-- A JSON value. -/
inductive Json where
  | null
  | bool (value : Bool)
  /-- A number without fraction and exponent. -/
  | integer (value : Int)
  /-- A number with a fraction or an exponent, or a negative zero, by its text. -/
  | decimal (text : String)
  | string (value : String)
  | array (items : List Json)
  | object (members : List (String × Json))
  deriving Inhabited

namespace Json

/-- The first value under a key of an object. -/
def get? (json : Json) (key : String) : Option Json :=
  match json with
  | object members => (members.find? fun member => member.1 == key).map Prod.snd
  | _ => none

end Json

end TorrentRemote
