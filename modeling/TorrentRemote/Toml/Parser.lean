import TorrentRemote.Toml.Number
import TorrentRemote.Toml.Text
import TorrentRemote.Toml.Tree

/-!
# Reading TOML

A TOML text is read line by line into statements, and the statements are put together to one table.
A text that breaks a rule of TOML 1.0 gives no table.  Arrays and inline tables may be nested to a
fixed depth, which bounds the recursion.
-/

namespace TorrentRemote.Toml

/-! ### Values -/

/-- A value that holds no other values. -/
def readScalar? (cs : List Char) : Option (Value × List Char) :=
  match cs with
  | 't' :: 'r' :: 'u' :: 'e' :: cs => some (.boolean true, cs)
  | 'f' :: 'a' :: 'l' :: 's' :: 'e' :: cs => some (.boolean false, cs)
  | cs =>
    match readString? cs with
    | some (text, cs) => some (.string text, cs)
    | none =>
      match readDateTime? cs with
      | some (moment, cs) => some (.dateTime moment, cs)
      | none =>
        match readFloat? cs with
        | some (value, cs) => some (.float value, cs)
        | none => (readInteger? cs).map fun (value, cs) => (.integer value, cs)

mutual

/-- A value in which others are nested to at most the given depth. -/
def readValue? (depth : Nat) (cs : List Char) : Option (Value × List Char) :=
  match depth, cs with
  | depth + 1, '[' :: cs =>
    (readItems? depth (cs.length + 1) cs).map fun (items, cs) => (.array items, cs)
  | depth + 1, '\x7b' :: cs =>
    match skipSpace cs with
    | '\x7d' :: cs => some (.table [], cs)
    | cs =>
      (readEntries? depth (cs.length + 1) ⟨.header, []⟩ cs).map fun (table, cs) =>
        (.table table.toTable, cs)
  | _, cs => readScalar? cs
termination_by (depth, 0)

/-- The items of an array and its closing bracket; `fuel` bounds their count. -/
def readItems? (depth fuel : Nat) (cs : List Char) : Option (List Value × List Char) :=
  match fuel, skipBlank false cs with
  | _, ']' :: cs => some ([], cs)
  | 0, _ => none
  | fuel + 1, cs =>
    match readValue? depth cs with
    | none => none
    | some (item, cs) =>
      match skipBlank false cs with
      | ',' :: cs => (readItems? depth fuel cs).map fun (items, cs) => (item :: items, cs)
      | ']' :: cs => some ([item], cs)
      | _ => none
termination_by (depth, fuel + 1)

/-- The entries of an inline table and its closing brace; `fuel` bounds their count. -/
def readEntries? (depth fuel : Nat) (table : Section) (cs : List Char) :
    Option (Section × List Char) :=
  match fuel with
  | 0 => none
  | fuel + 1 =>
    match readPath? cs with
    | some (path, '=' :: cs) =>
      match readValue? depth (skipSpace cs) with
      | none => none
      | some (value, cs) =>
        match table.addEntry? path value, skipSpace cs with
        | some table, ',' :: cs => readEntries? depth fuel table cs
        | some table, '\x7d' :: cs => some (table, cs)
        | _, _ => none
    | _ => none
termination_by (depth, fuel + 1)

end

/-! ### Statements -/

/-- A line of a TOML text that says something. -/
inductive Statement where
  | table (path : List String)
  | element (path : List String)
  | entry (path : List String) (value : Value)

/-- A statement and what follows it on its line. -/
def readStatement? : List Char → Option (Statement × List Char)
  | '[' :: '[' :: cs =>
    match readPath? cs with
    | some (path, ']' :: ']' :: cs) => some (.element path, cs)
    | _ => none
  | '[' :: cs =>
    match readPath? cs with
    | some (path, ']' :: cs) => some (.table path, cs)
    | _ => none
  | cs =>
    match readPath? cs with
    | some (path, '=' :: cs) =>
      (readValue? maxDepth (skipSpace cs)).map fun (value, cs) => (.entry path value, cs)
    | _ => none

/-- The statements of a text; `fuel` bounds their count. -/
def readStatements? (fuel : Nat) (cs : List Char) : Option (List Statement) :=
  match fuel, skipBlank false cs with
  | _, [] => some []
  | 0, _ => none
  | fuel + 1, cs => do
    let (statement, cs) ← readStatement? cs
    let cs ← afterLine? cs
    let statements ← readStatements? fuel cs
    some (statement :: statements)

/-- The statements of a text, which a byte order mark may precede. -/
def statements? (text : String) : Option (List Statement) :=
  let cs := match text.toList with
    | '\uFEFF' :: cs => cs
    | cs => cs
  readStatements? (cs.length + 1) cs

/-- The table that statements make up, after the given table and below the given header. -/
def assemble? (header : List String) (table : Section) : List Statement → Option Section
  | [] => some table
  | .table path :: statements => do assemble? path (← table.addTable? path) statements
  | .element path :: statements => do assemble? path (← table.addElement? path) statements
  | .entry path value :: statements => do
    assemble? header (← table.addEntryAt? header path value) statements

/-- The table that a text stands for, if the text is valid. -/
def parse? (text : String) : Option Table := do
  let statements ← statements? text
  (assemble? [] ⟨.header, []⟩ statements).map Section.toTable

end TorrentRemote.Toml
