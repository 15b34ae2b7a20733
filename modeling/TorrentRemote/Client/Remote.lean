import TorrentRemote.Client.Basic
import TorrentRemote.Registry
import TorrentRemote.Rpc.Exchange

/-!
# Clients of a daemon elsewhere

A client of type `transmission` speaks to its daemon over exchanges.  Making one sends nothing: a
daemon that cannot be reached is noticed by the first operation.
-/

namespace TorrentRemote

/-- A client with the endpoint of its daemon. -/
structure RemoteClient extends Client where
  endpoint : Rpc.Endpoint

namespace RemoteClient

/-- The type of these clients. -/
def kind : String := "transmission"

/-- Where a daemon listens if the configuration does not say it. -/
def defaultUrl : String := "http://localhost:9091/transmission/rpc"

/-- The credentials of a configuration; without user name there are none. -/
def credentialsOf (config : ClientConfig) : Option Rpc.Credentials :=
  if config.username = "" then none else some ⟨config.username, config.password⟩

/-- The URL of the daemon of a configured client. -/
def urlOf (config : ClientConfig) : Except ClientError Url :=
  match Url.parse (if config.url = "" then defaultUrl else config.url) with
  | .ok url => .ok url
  | .error error => .error (.other ("Invalid RPC URL: " ++ error.message))

/-- Makes a client, if its address is a URL and the HTTP client that speaks to it can be built. -/
def create (build : Rpc.HttpBuilder := .ready) : Creator RemoteClient := fun name config all => do
  let url ← urlOf config
  let endpoint : Rpc.Endpoint := ⟨url, credentialsOf config, all.requestTimeoutSecs⟩
  match build endpoint.timeoutSecs with
  | .ok () => pure { name, config, endpoint }
  | .error text => .error (.other ("failed to build HTTP client: " ++ text))

end RemoteClient

/-- The creator that makes clients with another one and wraps them. -/
def Creator.map {α β : Type} (wrap : α → β) (create : Creator α) : Creator β :=
  fun name config all => (create name config all).map wrap

/-- A registry with the built-in type of clients. -/
def Registry.withDefaults {α : Type} (wrap : RemoteClient → α) (config : Config)
    (build : Rpc.HttpBuilder := .ready) : Registry α :=
  .single RemoteClient.kind (Creator.map wrap (RemoteClient.create build)) config

end TorrentRemote
