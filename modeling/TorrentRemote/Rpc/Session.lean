import TorrentRemote.Json.Fields
import TorrentRemote.Json.Parser
import TorrentRemote.Rpc.Request
import TorrentRemote.Rpc.Response

/-!
# Asking for the settings

The settings are asked for in a handshake of their own, which looks at the status of each reply.  Of
the settings in a response, what is missing is empty or zero.
-/

namespace TorrentRemote.Rpc

open Daemon (Session)
open Json (Raw)

/-! ### Responses -/

/-- A response with settings, unless its arguments are missing. -/
structure SessionResponse where
  result : String
  arguments : Option Session

/-- The keys of a response. -/
def responseFields : List String := ["result", "arguments"]

/-- The settings.  Any of them may be missing. -/
def session? (raw : Raw) : Option Session := do
  let fields ← raw.fields? sessionFields 0
  some {
    downloadDir := ← fields.optional? Raw.text? "" "download-dir"
    downLimit := {
      kib := ← fields.optional? Raw.int64? 0 "speed-limit-down"
      enabled := ← fields.optional? Raw.bool? false "speed-limit-down-enabled" }
    upLimit := {
      kib := ← fields.optional? Raw.int64? 0 "speed-limit-up"
      enabled := ← fields.optional? Raw.bool? false "speed-limit-up-enabled" } }

/-- The response with settings in a body. -/
def sessionResponse? (body : List UInt8) : Option SessionResponse := do
  let fields ← (← Raw.read? body).fields? responseFields responseFields.length
  some {
    result := ← fields.required? Raw.text? "result"
    arguments := ← fields.optional? (Raw.nullable? session?) none "arguments" }

/-- The settings in a response. -/
def SessionResponse.toResult (response : SessionResponse) : Except ClientError Session :=
  if response.result ≠ Wire.successText then .error (.server response.result)
  else match response.arguments with
    | some session => .ok session
    | none => .error (.communication "response without arguments")

/-- The settings in the body of a reply. -/
def readSession (endpoint : Endpoint) (body : Except Failure (List UInt8)) :
    Except ClientError Session :=
  match body with
  | .error failure => .error (failure.toError endpoint)
  | .ok bytes =>
    match sessionResponse? bytes with
    | none => .error (Failure.unreadable.toError endpoint)
    | some response => response.toResult

/-! ### The handshake -/

/-- How often the settings are asked for at most. -/
def maxSettingsRequests : Nat := 2

/-- The settings, asked for at most `tries` times, and the session id that is known then. -/
def exchangeSession (endpoint : Endpoint) :
    (tries : Nat) → Option String → Exchange (Except ClientError Session × Option String)
  | 0, id => pure (.error (.communication "session id negotiation failed"), id)
  | tries + 1, id => do
    match ← send endpoint id sessionQuery with
    | .error failure => pure (.error (failure.toError endpoint), id)
    | .ok reply =>
      if reply.status = conflictStatus then
        match reply.sessionId.bind headerText? with
        | none => pure (.error (.server "409 response without session id"), id)
        | some newId => exchangeSession endpoint tries (some newId)
      else if reply.status = unauthorizedStatus then pure (.error .unauthorized, id)
      else if isSuccess reply.status then pure (readSession endpoint reply.body, id)
      else pure (.error (.server ("HTTP " ++ statusText reply.status)), id)

end TorrentRemote.Rpc
