import TorrentRemote.Toml.Value

/-!
# Tables under construction

The entries of a TOML table may come in several places of a text.  What may be added where depends
on how a table came to be: by its own header, as a table above one with a header, or by dotted keys.
Each key is defined once.
-/

namespace TorrentRemote.Toml

/-- How a table came to be. -/
inductive Origin where
  /-- By its own header, or as the whole text. -/
  | header
  /-- As a table above one that has a header. -/
  | above
  /-- By dotted keys. -/
  | dotted
  deriving DecidableEq

/-- What stands under a key. -/
inductive Node where
  | value (value : Value)
  | table (origin : Origin) (entries : List (String × Node))
  /-- Tables that each have a header with the same path. -/
  | tables (elements : List (List (String × Node)))

/-- The entries of a table under construction. -/
abbrev Entries := List (String × Node)

/-- A table under construction. -/
structure Section where
  origin : Origin
  entries : Entries

/-- The node under a key. -/
def Entries.get? (entries : Entries) (key : String) : Option Node :=
  (entries.find? fun entry => entry.1 == key).map Prod.snd

/-- Entries with another node under a key. -/
def Entries.set (entries : Entries) (key : String) (node : Node) : Entries :=
  if (entries.get? key).isSome then
    entries.map fun entry => if entry.1 == key then (key, node) else entry
  else entries ++ [(key, node)]

/-- A table in which the table at the end of a path is changed.  Tables that are missing on the way
are made.  Dotted keys do not lead into a table that has a header. -/
def Section.changeAt? (byDots : Bool) (change : Section → Option Section) :
    List String → Section → Option Section
  | [], table => change table
  | key :: path, table => do
    let node ← match table.entries.get? key with
      | none =>
        let made ← changeAt? byDots change path ⟨if byDots then .dotted else .above, []⟩
        some (.table made.origin made.entries)
      | some (.value _) => none
      | some (.tables elements) =>
        match elements.getLast? with
        | none => none
        | some last =>
          let changed ← changeAt? byDots change path ⟨.header, last⟩
          some (.tables (elements.dropLast ++ [changed.entries]))
      | some (.table origin entries) =>
        if byDots ∧ origin = .header then none
        else
          let changed ← changeAt? byDots change path ⟨origin, entries⟩
          some (.table changed.origin changed.entries)
    some ⟨table.origin, table.entries.set key node⟩

/-- A table with one more entry, under the last key of a path of dotted keys.  The tables on the
path have to come from dotted keys. -/
def Section.addEntry? (path : List String) (value : Value) (table : Section) : Option Section :=
  let key := path.getLastD ""
  let isDirect := path.length = 1
  table.changeAt? true (fun target =>
    if (target.origin = .dotted) = isDirect ∨ (target.entries.get? key).isSome then none
    else some ⟨target.origin, target.entries.set key (.value value)⟩) path.dropLast

/-- A table in which the table at a path gets a header. -/
def Section.addTable? (path : List String) (table : Section) : Option Section :=
  let key := path.getLastD ""
  table.changeAt? false (fun target =>
    match target.entries.get? key with
    | none => some ⟨target.origin, target.entries.set key (.table .header [])⟩
    | some (.table .above entries) =>
      some ⟨target.origin, target.entries.set key (.table .header entries)⟩
    | _ => none) path.dropLast

/-- A table in which one more table with the given path begins. -/
def Section.addElement? (path : List String) (table : Section) : Option Section :=
  let key := path.getLastD ""
  table.changeAt? false (fun target =>
    match target.entries.get? key with
    | none => some ⟨target.origin, target.entries.set key (.tables [[]])⟩
    | some (.tables elements) =>
      some ⟨target.origin, target.entries.set key (.tables (elements ++ [[]]))⟩
    | _ => none) path.dropLast

/-- A table in which an entry is added to the table at a path that has a header. -/
def Section.addEntryAt? (header path : List String) (value : Value) (table : Section) :
    Option Section :=
  table.changeAt? false (Section.addEntry? path value) header

/-! ### Finished tables -/

mutual

/-- The value of a node. -/
def Node.toValue : Node → Value
  | .value value => value
  | .table _ entries => .table (Table.ofEntries (entryValues entries))
  | .tables elements => .array (elementValues elements)

/-- The values of entries. -/
def entryValues : List (String × Node) → List (String × Value)
  | [] => []
  | entry :: entries => entryValue entry :: entryValues entries

/-- The value of an entry. -/
def entryValue : String × Node → String × Value
  | (key, node) => (key, node.toValue)

/-- The values of tables that share a path. -/
def elementValues : List (List (String × Node)) → List Value
  | [] => []
  | entries :: elements => .table (Table.ofEntries (entryValues entries)) :: elementValues elements

end

/-- The finished table. -/
def Section.toTable (table : Section) : Table := Table.ofEntries (entryValues table.entries)

end TorrentRemote.Toml
