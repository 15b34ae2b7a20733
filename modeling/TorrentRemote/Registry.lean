import TorrentRemote.Config.Basic
import TorrentRemote.Error
import TorrentRemote.Interaction
import TorrentRemote.Text.Diagnostic

/-!
# Registry of client types

A registry knows how clients of each type are made, and makes the configured clients.  The names of
the registered types are distinct, so a name finds the creator with which it was registered first.
-/

namespace TorrentRemote

/-- Makes a client from its name, its own configuration and the whole configuration. -/
abbrev Creator (Client : Type) := String → ClientConfig → Config → Except ClientError Client

/-- A type of client by its name and its creator. -/
structure Registration (Client : Type) where
  name : String
  create : Creator Client

/-- The diagnostic text of a registered type. -/
def Registration.describe {Client : Type} (registration : Registration Client) : String :=
  Text.partialRecordText "RegInfo" [("name", Text.quoted registration.name)]

/-- Why a registry refuses. -/
inductive RegistryError where
  /-- No type is registered under the name. -/
  | notFound (kind : String)
  /-- No client is configured under the name. -/
  | configNotFound (name : String)
  /-- The configured type of a client is not registered. -/
  | unsupportedType (name kind : String)
  /-- A type is already registered under the name. -/
  | duplicateType (kind : String)
  /-- The creator failed. -/
  | client (error : ClientError)

/-- The message of an error. -/
def RegistryError.message : RegistryError → String
  | notFound kind => "client type not found: " ++ kind
  | configNotFound name => "client config not found: " ++ name
  | unsupportedType name kind => "client " ++ name ++ " has unsupported type " ++ kind
  | duplicateType kind => "client type already registered: " ++ kind
  | client error => error.message

/-- The registered types, in the order in which they were registered, and the configuration. -/
structure Registry (Client : Type) where
  registrations : List (Registration Client)
  config : Config
  distinct : registrations.Pairwise fun a b => a.name ≠ b.name

namespace Registry

variable {Client : Type}

/-- A registry without types. -/
def empty (config : Config) : Registry Client := ⟨[], config, .nil⟩

/-- A registry of one type. -/
def single (name : String) (create : Creator Client) (config : Config) : Registry Client :=
  ⟨[⟨name, create⟩], config, List.pairwise_singleton _ _⟩

/-- The names of the registered types. -/
def types (registry : Registry Client) : List String :=
  registry.registrations.map Registration.name

/-- A registry with one more type, if its name is new. -/
def register (registry : Registry Client) (name : String) (create : Creator Client) :
    Except RegistryError (Registry Client) :=
  if h : ∀ r ∈ registry.registrations, r.name ≠ name then
    .ok ⟨registry.registrations ++ [⟨name, create⟩], registry.config,
      List.pairwise_append.2 ⟨registry.distinct, List.pairwise_singleton _ _, by simpa using h⟩⟩
  else .error (.duplicateType name)

/-- The registered type with the given name. -/
def find? (registry : Registry Client) (name : String) : Option (Registration Client) :=
  registry.registrations.find? fun r => r.name == name

/-- The registered type with the given name, or the error that there is none. -/
def find (registry : Registry Client) (name : String) :
    Except RegistryError (Registration Client) :=
  match registry.find? name with
  | some registration => .ok registration
  | none => .error (.notFound name)

/-- Whether a client is configured under the name. -/
def clientExists (registry : Registry Client) (name : String) : Bool :=
  (registry.config.client? name).isSome

/-- A creator that is run: the registration that it comes from, and what it is given. -/
structure Making (Client : Type) where
  registration : Registration Client
  name : String
  config : ClientConfig
  all : Config

/-- What comes of running a creator. -/
def Making.outcome (making : Making Client) : Except ClientError Client :=
  making.registration.create making.name making.config making.all

/-- How the client that is configured under the name is made.  Running a creator is a question. -/
def creation (registry : Registry Client) (name : String) :
    Interaction (Making Client) (fun _ => Except ClientError Client)
      (Except RegistryError Client) :=
  match registry.config.client? name with
  | none => .done (.error (.configNotFound name))
  | some config =>
    match registry.find config.kind with
    | .error _ => .done (.error (.unsupportedType name config.kind))
    | .ok registration =>
      .ask ⟨registration, name, config, registry.config⟩ fun made => .done (made.mapError .client)

/-- The client that is configured under the name, made by the creator of its type. -/
def createClient (registry : Registry Client) (name : String) : Except RegistryError Client :=
  Id.run ((registry.creation name).run fun making => pure making.outcome)

/-- The diagnostic text of a registry. -/
def describe (registry : Registry Client) : String :=
  Text.recordText "Registry" [
    ("entries", Text.listText (registry.registrations.map Registration.describe)),
    ("config", registry.config.describe)]

end Registry

end TorrentRemote
