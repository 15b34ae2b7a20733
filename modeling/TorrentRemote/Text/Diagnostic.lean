/-!
# Diagnostic texts

A value is shown to developers as the name of its type with its fields in braces, as a list in
brackets, or as a part that may be missing.
-/

namespace TorrentRemote.Text

/-- Fields with their names. -/
def fieldTexts (fields : List (String × String)) : String :=
  String.intercalate ", " (fields.map fun field => field.1 ++ ": " ++ field.2)

/-- A type with all of its fields. -/
def recordText (name : String) (fields : List (String × String)) : String :=
  name ++ " \x7b " ++ fieldTexts fields ++ " \x7d"

/-- A type with some of its fields. -/
def partialRecordText (name : String) (fields : List (String × String)) : String :=
  name ++ " \x7b " ++ fieldTexts fields ++ ", .. \x7d"

/-- Items in brackets. -/
def listText (items : List String) : String := "[" ++ String.intercalate ", " items ++ "]"

/-- Entries in braces. -/
def tableText (entries : List String) : String :=
  "\x7b" ++ String.intercalate ", " entries ++ "\x7d"

/-- A part that may be missing. -/
def optionText {α : Type} (describe : α → String) : Option α → String
  | none => "None"
  | some a => "Some(" ++ describe a ++ ")"

end TorrentRemote.Text
