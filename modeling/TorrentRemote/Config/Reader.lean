import TorrentRemote.Config.Basic
import TorrentRemote.Toml.Parser

/-!
# Reading a configuration

A configuration is a TOML text with an optional time limit and an array of client tables.  Six keys
of a client table have a meaning for every client, all other keys are kept as extra settings.  What
is not known at the top level is ignored.
-/

namespace TorrentRemote

namespace ClientConfig

/-- The keys of a client table that have a meaning for every client. -/
def knownKeys : List String := ["name", "type", "url", "username", "password", "no_add"]

/-- The text under a key, or the empty text if the key is missing. -/
def textOrEmpty? (table : Toml.Table) (key : String) : Option String :=
  match table.get? key with
  | none => some ""
  | some (.string text) => some text
  | some _ => none

/-- The truth value under a key, or `false` if the key is missing. -/
def boolOrFalse? (table : Toml.Table) (key : String) : Option Bool :=
  match table.get? key with
  | none => some false
  | some (.boolean value) => some value
  | some _ => none

/-- The entries of a client table that are kept as extra settings. -/
def extraOf (table : Toml.Table) : Toml.Table :=
  table.filter fun entry => decide (entry.1 ∉ knownKeys)

/-- The configuration that a client table stands for. -/
def ofTable? (table : Toml.Table) : Option ClientConfig := do
  let name ← table.string? "name"
  let kind ← textOrEmpty? table "type"
  let url ← textOrEmpty? table "url"
  let username ← textOrEmpty? table "username"
  let password ← textOrEmpty? table "password"
  let noAdd ← boolOrFalse? table "no_add"
  some { name, kind, url, username, password, noAdd, extra := extraOf table }

/-- The configuration that a value stands for, if the value is a client table. -/
def ofValue? : Toml.Value → Option ClientConfig
  | .table entries => ofTable? entries
  | _ => none

end ClientConfig

/-- What is found where a file is expected. -/
inductive FileContent where
  | bytes (content : List UInt8)
  | missing
  | directory

namespace Config

/-- The time limit of a table, which must not be negative. -/
def timeoutOf? (table : Toml.Table) : Option UInt64 :=
  match table.get? "request_timeout_secs" with
  | none => some defaultTimeoutSecs
  | some (.integer seconds) =>
    if 0 ≤ seconds.toInt then some (UInt64.ofNat seconds.toInt.toNat) else none
  | some _ => none

/-- The clients of a table. -/
def clientsOf? (table : Toml.Table) : Option (List ClientConfig) :=
  match table.get? "clients" with
  | none => some []
  | some (.array items) => items.mapM ClientConfig.ofValue?
  | some _ => none

/-- The configuration that a table stands for. -/
def ofTable? (table : Toml.Table) : Option Config := do
  let requestTimeoutSecs ← timeoutOf? table
  let clients ← clientsOf? table
  some { requestTimeoutSecs, clients }

/-- The configuration that a table stands for, if it is valid. -/
def ofTable (table : Toml.Table) : Except ConfigError Config :=
  match ofTable? table with
  | none => .error (.parse "a value has the wrong type")
  | some config => config.validate.map fun _ => config

/-- The configuration that a text stands for, if it is valid. -/
def parse (text : String) : Except ConfigError Config :=
  match Toml.parse? text with
  | none => .error (.parse "the text is not TOML")
  | some table => ofTable table

/-- The configuration in the file at a path, if it is valid. -/
def ofFile (path : String) : FileContent → Except ConfigError Config
  | .missing => .error (.io (path ++ ": No such file or directory (os error 2)"))
  | .directory => .error (.io (path ++ ": Is a directory (os error 21)"))
  | .bytes content =>
    match String.fromUTF8? ⟨content.toArray⟩ with
    | some text => parse text
    | none => .error (.io (path ++ ": stream did not contain valid UTF-8"))

end Config

end TorrentRemote
