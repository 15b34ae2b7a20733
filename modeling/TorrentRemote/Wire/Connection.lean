import TorrentRemote.Rpc.Exchange
import TorrentRemote.Wire.Response

/-!
# Connections to a daemon

A daemon refuses a request that does not carry its session id and tells the id in the refusal; the
request is then sent again with that id, a limited number of times.
-/

namespace TorrentRemote.Wire

open Rpc (Endpoint Exchange Failure)

/-- Why a command fails. -/
inductive CallError where
  /-- The HTTP client failed. -/
  | http (failure : Failure)
  | other (text : String)

/-- How often a request is sent at most. -/
def maxRequests : Nat := 5

/-- The response in a body. -/
def readReply (command : Command) (body : Except Failure (List UInt8)) :
    Except CallError (Response command.Arguments) :=
  match body with
  | .error failure => .error (.http failure)
  | .ok bytes =>
    match command.readResponse? bytes with
    | none => .error (.http .unreadable)
    | some response => .ok response

/-- The response to a command that is sent at most `tries` times, and the session id that is known
then.  The status of a reply does not matter unless it asks for another session id. -/
def exchange (endpoint : Endpoint) (command : Command) : (tries : Nat) → Option String →
    Exchange (Except CallError (Response command.Arguments) × Option String)
  | 0, id => pure (.error (.other "Max retries reached!"), id)
  | tries + 1, id => do
    match ← Rpc.send endpoint id command.body with
    | .error failure => pure (.error (.http failure), id)
    | .ok reply =>
      if reply.status = Rpc.conflictStatus then
        match reply.sessionId with
        | none => pure (.error (.other "No session id received!"), id)
        | some bytes =>
          match Rpc.headerText? bytes with
          | none => pure (.error (.other "failed to convert header to a str"), id)
          | some newId => exchange endpoint command tries (some newId)
      else pure (readReply command reply.body, id)

/-- The response to a command, and the session id that is known then. -/
def call (endpoint : Endpoint) (command : Command) (id : Option String) :
    Exchange (Except CallError (Response command.Arguments) × Option String) :=
  exchange endpoint command maxRequests id

end TorrentRemote.Wire
