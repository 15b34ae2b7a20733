import TorrentRemote.Number.Binary64
import TorrentRemote.Text.Diagnostic
import TorrentRemote.Text.Quoted
import TorrentRemote.Toml.DateTime

/-!
# TOML values

The values of a TOML text.  The entries of a table are kept in ascending order of their keys.
-/

namespace TorrentRemote.Toml

/-- A TOML value. -/
inductive Value where
  | string (text : String)
  | integer (value : Int64)
  | float (value : Number.Binary64)
  | boolean (value : Bool)
  | dateTime (value : DateTime)
  | array (items : List Value)
  | table (entries : List (String × Value))
  deriving Inhabited

/-- The entries of a table. -/
abbrev Table := List (String × Value)

namespace Table

/-- The value under a key. -/
def get? (table : Table) (key : String) : Option Value :=
  (table.find? fun entry => entry.1 == key).map Prod.snd

/-- A table with one more entry, put before the entries with greater keys. -/
def insert (key : String) (value : Value) : Table → Table
  | [] => [(key, value)]
  | entry :: entries =>
    if key < entry.1 then (key, value) :: entry :: entries
    else entry :: insert key value entries

/-- The table with the given entries. -/
def ofEntries (entries : List (String × Value)) : Table :=
  entries.foldr (fun entry table => insert entry.1 entry.2 table) []

/-- The text under a key, if there is one. -/
def string? (table : Table) (key : String) : Option String :=
  match table.get? key with
  | some (.string text) => some text
  | _ => none

end Table

/-! ### Diagnostic texts -/

/-- The diagnostic text of a date. -/
def Date.describe (date : Date) : String :=
  Text.recordText "Date" [("year", Text.showNat date.year), ("month", Text.showNat date.month),
    ("day", Text.showNat date.day)]

/-- The diagnostic text of a time. -/
def Time.describe (time : Time) : String :=
  Text.recordText "Time" [("hour", Text.showNat time.hour), ("minute", Text.showNat time.minute),
    ("second", Text.showNat time.second), ("nanosecond", Text.showNat time.nanosecond)]

/-- The diagnostic text of an offset. -/
def Offset.describe : Offset → String
  | utc => "Z"
  | minutes n => Text.recordText "Custom" [("minutes", Text.showInt n)]

/-- The diagnostic text of a date, a time, or both. -/
def DateTime.describe (moment : DateTime) : String :=
  Text.recordText "Datetime" [("date", Text.optionText Date.describe moment.date),
    ("time", Text.optionText Time.describe moment.time),
    ("offset", Text.optionText Offset.describe moment.offset)]

mutual

/-- The diagnostic text of a value. -/
def Value.describe : Value → String
  | .string text => "String(" ++ Text.quoted text ++ ")"
  | .integer value => "Integer(" ++ Text.showInt64 value ++ ")"
  | .float value => "Float(" ++ value.text ++ ")"
  | .boolean true => "Boolean(true)"
  | .boolean false => "Boolean(false)"
  | .dateTime value => "Datetime(" ++ value.describe ++ ")"
  | .array items => "Array(" ++ Text.listText (describeItems items) ++ ")"
  | .table entries => "Table(" ++ Text.tableText (describeEntries entries) ++ ")"

/-- The diagnostic texts of the items of an array. -/
def describeItems : List Value → List String
  | [] => []
  | item :: items => item.describe :: describeItems items

/-- The diagnostic texts of the entries of a table. -/
def describeEntries : List (String × Value) → List String
  | [] => []
  | entry :: entries => describeEntry entry :: describeEntries entries

/-- The diagnostic text of an entry of a table. -/
def describeEntry : String × Value → String
  | (key, value) => Text.quoted key ++ ": " ++ value.describe

end

/-- The diagnostic text of a table. -/
def Table.describe (table : Table) : String := Text.tableText (describeEntries table)

end TorrentRemote.Toml
