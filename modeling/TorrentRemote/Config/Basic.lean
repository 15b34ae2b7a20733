import TorrentRemote.Text.Blank
import TorrentRemote.Toml.Value

/-!
# Configuration

The configured clients and the time limit of their requests.  A configuration is valid if every
client has a type and no two clients have the same name; then a name finds the client that has it.
Passwords do not appear in diagnostic texts.
-/

namespace TorrentRemote

/-- The configuration of one client. -/
structure ClientConfig where
  /-- The name of the client. -/
  name : String
  /-- The type of client, by which its creator is found. -/
  kind : String
  /-- The address of the daemon; the empty text is its usual local address. -/
  url : String
  username : String
  password : String
  /-- Whether automatic tasks must not add torrents. -/
  noAdd : Bool
  /-- Settings that only some types of client know. -/
  extra : Toml.Table

/-- A configuration. -/
structure Config where
  /-- How many seconds a request may take. -/
  requestTimeoutSecs : UInt64
  clients : List ClientConfig

/-- Why a configuration is not accepted. -/
inductive ConfigError where
  /-- The file cannot be read. -/
  | io (detail : String)
  /-- The text is not TOML, or its values have the wrong types. -/
  | parse (detail : String)
  /-- Two clients have the same name. -/
  | duplicateClient (name : String)
  /-- A client has no type. -/
  | missingType (name : String)
  deriving DecidableEq

/-- The message of an error. -/
def ConfigError.message : ConfigError → String
  | io detail => "io: " ++ detail
  | parse detail => "failed to parse config: " ++ detail
  | duplicateClient name => "duplicate client name " ++ Text.quoted name
  | missingType name => "client " ++ Text.quoted name ++ " has no type"

namespace ClientConfig

/-- The text of an extra setting, if it is a text. -/
def extraString? (config : ClientConfig) (key : String) : Option String :=
  Toml.Table.string? config.extra key

/-- Whether the type is missing or blank. -/
def hasBlankKind (config : ClientConfig) : Bool := Text.trimChars config.kind.toList = []

/-- The diagnostic text of a client's configuration. -/
def describe (config : ClientConfig) : String :=
  Text.recordText "ClientConfig" [
    ("name", Text.quoted config.name),
    ("kind", Text.quoted config.kind),
    ("url", Text.quoted config.url),
    ("username", Text.quoted config.username),
    ("password", Text.quoted "<redacted>"),
    ("no_add", if config.noAdd then "true" else "false"),
    ("extra", Toml.Table.describe config.extra)]

end ClientConfig

namespace Config

/-- The time limit of a request if none is given, in seconds. -/
def defaultTimeoutSecs : UInt64 := 30

/-- Checks clients in order, where `seen` holds the names of those before them. -/
def validateFrom (seen : List String) : List ClientConfig → Except ConfigError Unit
  | [] => .ok ()
  | client :: clients =>
    if client.hasBlankKind then .error (.missingType client.name)
    else if client.name ∈ seen then .error (.duplicateClient client.name)
    else validateFrom (client.name :: seen) clients

/-- Checks that every client has a type and a name of its own. -/
def validate (config : Config) : Except ConfigError Unit := validateFrom [] config.clients

/-- The first client with the given name. -/
def client? (config : Config) (name : String) : Option ClientConfig :=
  config.clients.find? fun client => client.name == name

/-- The diagnostic text of a configuration. -/
def describe (config : Config) : String :=
  Text.recordText "Config" [
    ("request_timeout_secs", Text.showNat config.requestTimeoutSecs.toNat),
    ("clients", Text.listText (config.clients.map ClientConfig.describe))]

end Config

end TorrentRemote
