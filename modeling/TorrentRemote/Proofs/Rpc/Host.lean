import TorrentRemote.Proofs.Interaction
import TorrentRemote.Proofs.Json.ReadBack
import TorrentRemote.Proofs.Rpc.Request
import TorrentRemote.Proofs.Rpc.Session
import TorrentRemote.Rpc.Handshake

/-!
# Hosts that keep their settings

A host answers requests over a network.  It may refuse a request that does not carry its session id
and tell the id; a client then sends the request again with that id.  So a host that does to its
settings what the requests ask for is, for a client, a daemon that keeps its settings, and all that
a client notices of the way is that limits are cut down.

## Main definitions

* `Rpc.Host`, `Rpc.Host.server` : what answers requests, and the daemon that a client finds there.
* `Rpc.Host.KeepsSettings` : a host whose settings become what requests ask for and no more.

## Main results

* `Rpc.Host.KeepsSettings.server` : such a host is a daemon that keeps its settings.
* `Rpc.settingsHost_keepsSettings` : there is such a host, which speaks JSON.
-/

namespace TorrentRemote.Rpc

open Daemon (Server Session SessionChange)
open Json (Fields Raw)
open Wire (Command)

variable {τ : Type}

/-- What answers the requests to an endpoint, with states of type `τ`. -/
abbrev Host (τ : Type) : Type := Request → StateM τ (Except Failure Reply)

/-- The daemon that a client finds at an endpoint.  The session ids that the host told are
remembered. -/
def Host.server (host : Host τ) (endpoint : Endpoint) : Server (SessionIds × τ) := fun call s =>
  let outcome := (((answer endpoint call).run s.1).run host).run s.2
  (outcome.1.1, outcome.1.2, outcome.2)

/-- The request with a body, as a client sends it. -/
def requestTo (endpoint : Endpoint) (known : Option String) (body : Json) : Request :=
  { authorization := endpoint.credentials.map Credentials.header, sessionId := known, body }

/-! ### Requests -/

/-- The host refuses a request that does not carry its session id, and tells the id that counts from
then on, or it serves the request. -/
def Host.Handles (host : Host τ) (session : τ → Session) (idOf : τ → String) (request : Request)
    (d : τ) (served : Reply → τ → Prop) : Prop :=
  ∃ reply d', (host request).run d = (.ok reply, d') ∧
    ((request.sessionId ≠ some (idOf d) ∧ reply.status = conflictStatus ∧
        reply.sessionId.bind headerText? = some (idOf d') ∧ session d' = session d) ∨
      served reply d')

/-- A request with the session id that counts is served. -/
theorem Host.Handles.exists_served {host : Host τ} {session : τ → Session} {idOf : τ → String}
    {request : Request} {d : τ} {served : Reply → τ → Prop}
    (h : host.Handles session idOf request d served) (hid : request.sessionId = some (idOf d)) :
    ∃ reply d', (host request).run d = (.ok reply, d') ∧ served reply d' := by
  obtain ⟨reply, d', hrun, ⟨hother, -⟩ | hserved⟩ := h
  · exact absurd hid hother
  · exact ⟨reply, d', hrun, hserved⟩

/-- The body of a reply arrives, and reports that a command succeeded. -/
def Reply.Confirms (reply : Reply) (command : Command) : Prop :=
  ∃ bytes response, reply.body = .ok bytes ∧ command.readResponse? bytes = some response ∧
    response.result = Wire.successText

/-- The command that changes the settings. -/
abbrev settingsCommand (change : SessionChange) : Command := .sessionSet (sessionSet change)

/-- A host whose settings, which `session` tells, become what the requests of a client ask for and
no more.  A request has to carry the session id that `idOf` tells. -/
structure Host.KeepsSettings (host : Host τ) (endpoint : Endpoint) (session : τ → Session)
    (idOf : τ → String) : Prop where
  tells (known : Option String) (d : τ) :
    host.Handles session idOf (requestTo endpoint known sessionQuery) d fun reply d' =>
      isSuccess reply.status ∧ reply.Tells Wire.successText (some (session d)) ∧
        session d' = session d
  changes (change : SessionChange) (known : Option String) (d : τ) :
    host.Handles session idOf (requestTo endpoint known (settingsCommand change).body) d
      fun reply d' => reply.status ≠ conflictStatus ∧ reply.Confirms (settingsCommand change) ∧
        session d' = (changeOf (sessionArguments change)).applyTo (session d)

/-! ### Exchanges -/

variable {host : Host τ} {endpoint : Endpoint} {known : Option String} {reply : Reply} {d d' : τ}
  {tries : Nat} {newId : String}

/-- One request, and what is done with what comes back. -/
theorem run_send_bind {α : Type} {body : Json} {back : Except Failure Reply}
    (next : Except Failure Reply → Exchange α)
    (h : (host (requestTo endpoint known body)).run d = (back, d')) :
    ((send endpoint known body >>= next).run host).run d = ((next back).run host).run d' := by
  change ((next ((host (requestTo endpoint known body)).run d).1).run host).run
    ((host (requestTo endpoint known body)).run d).2 = _
  rw [h]

theorem run_exchange_of_served {command : Command}
    (h : (host (requestTo endpoint known command.body)).run d = (.ok reply, d'))
    (hstatus : reply.status ≠ conflictStatus) :
    ((Wire.exchange endpoint command (tries + 1) known).run host).run d =
      ((Wire.readReply command reply.body, known), d') := by
  rw [Wire.exchange, run_send_bind _ h]
  simp only [if_neg hstatus]
  rfl

theorem run_exchange_of_refused {command : Command}
    (h : (host (requestTo endpoint known command.body)).run d = (.ok reply, d'))
    (hstatus : reply.status = conflictStatus)
    (hid : reply.sessionId.bind headerText? = some newId) :
    ((Wire.exchange endpoint command (tries + 1) known).run host).run d =
      ((Wire.exchange endpoint command tries (some newId)).run host).run d' := by
  obtain ⟨bytes, hbytes, htext⟩ := Option.bind_eq_some_iff.1 hid
  rw [Wire.exchange, run_send_bind _ h]
  simp only [if_pos hstatus, hbytes, htext]

theorem run_exchangeSession_of_served
    (h : (host (requestTo endpoint known sessionQuery)).run d = (.ok reply, d'))
    (hstatus : isSuccess reply.status) :
    ((exchangeSession endpoint (tries + 1) known).run host).run d =
      ((readSession endpoint reply.body, known), d') := by
  have hconflict : reply.status ≠ conflictStatus := by
    intro heq
    rw [heq] at hstatus
    exact absurd hstatus (by decide)
  have hunauthorized : reply.status ≠ unauthorizedStatus := by
    intro heq
    rw [heq] at hstatus
    exact absurd hstatus (by decide)
  rw [exchangeSession, run_send_bind _ h]
  simp only [if_neg hconflict, if_neg hunauthorized, if_pos hstatus]
  rfl

theorem run_exchangeSession_of_refused
    (h : (host (requestTo endpoint known sessionQuery)).run d = (.ok reply, d'))
    (hstatus : reply.status = conflictStatus)
    (hid : reply.sessionId.bind headerText? = some newId) :
    ((exchangeSession endpoint (tries + 1) known).run host).run d =
      ((exchangeSession endpoint tries (some newId)).run host).run d' := by
  rw [exchangeSession, run_send_bind _ h]
  simp only [if_pos hstatus, hid]

variable {session : τ → Session} {idOf : τ → String}

/-- The settings are told in the end. -/
theorem Host.KeepsSettings.run_exchangeSession (h : host.KeepsSettings endpoint session idOf)
    (known : Option String) (d : τ) :
    ∃ known' d', session d' = session d ∧
      ((exchangeSession endpoint maxSettingsRequests known).run host).run d =
        ((.ok (session d), known'), d') := by
  obtain ⟨reply, d₁, hfirst, ⟨-, hconflict, hid, hsession⟩ | ⟨hstatus, htells, hsession⟩⟩ :=
    h.tells known d
  · -- The second request carries the id that was told, so it is served.
    obtain ⟨second, d', hsecond, hstatus, htells, hsession'⟩ :=
      (h.tells (some (idOf d₁)) d₁).exists_served rfl
    refine ⟨some (idOf d₁), d', hsession'.trans hsession, ?_⟩
    rw [maxSettingsRequests, run_exchangeSession_of_refused hfirst hconflict hid,
      run_exchangeSession_of_served hsecond hstatus, readSession_of_tells htells, hsession]
  · refine ⟨known, d₁, hsession, ?_⟩
    rw [maxSettingsRequests, run_exchangeSession_of_served hfirst hstatus,
      readSession_of_tells htells]

theorem Reply.Confirms.readReply_eq {command : Command} (h : reply.Confirms command) :
    ∃ response, Wire.readReply command reply.body = .ok response ∧
      argumentsOf response = .ok response.arguments := by
  obtain ⟨bytes, response, hbytes, hresponse, hresult⟩ := h
  refine ⟨response, ?_, if_pos (decide_eq_true hresult)⟩
  rw [hbytes, Wire.readReply]
  simp only [hresponse]

/-- The settings are changed in the end. -/
theorem Host.KeepsSettings.run_call (h : host.KeepsSettings endpoint session idOf)
    (change : SessionChange) (known : Option String) (d : τ) :
    ∃ response known' d', argumentsOf response = .ok () ∧
      session d' = (changeOf (sessionArguments change)).applyTo (session d) ∧
      ((Wire.call endpoint (settingsCommand change) known).run host).run d =
        ((.ok response, known'), d') := by
  obtain ⟨reply, d₁, hfirst, ⟨-, hconflict, hid, hsession⟩ | ⟨hstatus, hconfirms, hsession⟩⟩ :=
    h.changes change known d
  · obtain ⟨second, d', hsecond, hstatus, hconfirms, hsession'⟩ :=
      (h.changes change (some (idOf d₁)) d₁).exists_served rfl
    obtain ⟨response, hresponse, harguments⟩ := hconfirms.readReply_eq
    refine ⟨response, some (idOf d₁), d', harguments, hsession ▸ hsession', ?_⟩
    rw [Wire.call, Wire.maxRequests, run_exchange_of_refused hfirst hconflict hid,
      run_exchange_of_served hsecond hstatus, hresponse]
  · obtain ⟨response, hresponse, harguments⟩ := hconfirms.readReply_eq
    refine ⟨response, known, d₁, harguments, hsession, ?_⟩
    rw [Wire.call, Wire.maxRequests, run_exchange_of_served hfirst hstatus, hresponse]

/-! ### Calls -/

theorem run_answer_getSession (endpoint : Endpoint) (ids : SessionIds) :
    (answer endpoint .getSession).run ids =
      exchangeSession endpoint maxSettingsRequests ids.settings >>= fun p =>
        pure (p.1, { ids with settings := p.2 }) :=
  rfl

theorem run_answer_setSession (endpoint : Endpoint) (change : SessionChange) (ids : SessionIds) :
    (answer endpoint (.setSession change)).run ids =
      Wire.call endpoint (settingsCommand change) ids.calls >>= fun p =>
        pure (((p.1.mapError (toClientError endpoint)).bind argumentsOf).bind .ok,
          { ids with calls := p.2 }) :=
  rfl

/-- What a client sees of a call follows from what is exchanged for it. -/
theorem Host.run_server_bind {α : Type} {call : Daemon.Call} {s : SessionIds × τ} {x : Exchange α}
    {next : α → Except ClientError call.Answer × SessionIds} {value : α}
    (hanswer : (answer endpoint call).run s.1 = x >>= fun a => pure (next a))
    (hrun : (x.run host).run s.2 = (value, d')) :
    (host.server endpoint call).run s = ((next value).1, (next value).2, d') := by
  have houtcome : (((answer endpoint call).run s.1).run host).run s.2 = (next value, d') := by
    rw [hanswer]
    change ((x.bind fun a => .done (next a)).run host).run s.2 = _
    rw [Interaction.run_bind, StateT.run_bind, hrun]
    rfl
  exact congrArg (fun outcome => (outcome.1.1, outcome.1.2, outcome.2)) houtcome

/-- A client sees such a host as a daemon that keeps its settings.  It is told what the arguments of
a request give. -/
theorem Host.KeepsSettings.server (h : host.KeepsSettings endpoint session idOf) :
    (host.server endpoint).KeepsSettings (fun s => session s.2)
      fun change => changeOf (sessionArguments change) where
  tells s := by
    obtain ⟨known', d', hsession, hrun⟩ := h.run_exchangeSession s.1.settings s.2
    refine ⟨({ s.1 with settings := known' }, d'), ?_, hsession⟩
    exact Host.run_server_bind (run_answer_getSession endpoint s.1) hrun
  changes s change := by
    obtain ⟨response, known', d', harguments, hsession, hrun⟩ := h.run_call change s.1.calls s.2
    refine ⟨({ s.1 with calls := known' }, d'), ?_, hsession⟩
    rw [Host.run_server_bind (run_answer_setSession endpoint change s.1) hrun]
    change ((argumentsOf response).bind .ok, _) = _
    rw [harguments]
    rfl

/-- All that becomes of a change on its way is that its limits are cut down. -/
theorem Host.KeepsSettings.server_mapKib (h : host.KeepsSettings endpoint session idOf) :
    (host.server endpoint).KeepsSettings (fun s => session s.2)
      (SessionChange.mapKib sentKib) := by
  rw [← show (fun change => changeOf (sessionArguments change)) = SessionChange.mapKib sentKib from
    funext changeOf_sessionArguments]
  exact h.server

/-! ### A host that is nothing but its settings -/

/-- The settings as a host tells them. -/
def sessionToJson (session : Session) : Json :=
  .object [("download-dir", .string session.downloadDir),
    ("speed-limit-down", .integer session.downLimit.kib.toInt),
    ("speed-limit-down-enabled", .bool session.downLimit.enabled),
    ("speed-limit-up", .integer session.upLimit.kib.toInt),
    ("speed-limit-up-enabled", .bool session.upLimit.enabled)]

/-- A response that reports success. -/
def successResponse (arguments : Json) : Json :=
  .object [("result", .string Wire.successText), ("arguments", arguments)]

/-- The reply of a host that has done what was asked. -/
def successReply (arguments : Json) : Reply where
  status := 200
  sessionId := none
  body := .ok (Text.utf8 (successResponse arguments).render)

theorem withoutDecimals_successResponse {arguments : Json} (h : arguments.WithoutDecimals) :
    (successResponse arguments).WithoutDecimals :=
  .object (by simpa using ⟨.string _, h⟩)

theorem withoutDecimals_sessionToJson (session : Session) :
    (sessionToJson session).WithoutDecimals :=
  .object (by simpa using ⟨.string _, .integer _, .bool _, .integer _, .bool _⟩)

theorem session?_sessionToJson (session : Session) :
    session? (Raw.ofJson (sessionToJson session)) = some session := by
  have htext : (Raw.ofJson (.string session.downloadDir)).text? = some session.downloadDir :=
    Json.textOf?_piecesOf session.downloadDir
  have hkib (kib : Int64) : (Raw.ofJson (.integer kib.toInt)).int64? = some kib :=
    Text.toInt64?_toInt kib
  have hbool (enabled : Bool) : (Raw.ofJson (.bool enabled)).bool? = some enabled := rfl
  rw [session?, sessionToJson, Raw.fields?_ofJson]
  simp [Fields.optional?, Fields.valuesAt, htext, hkib, hbool]

theorem tells_successReply (session : Session) :
    (successReply (sessionToJson session)).Tells Wire.successText (some session) := by
  have hprinted :=
    Raw.read?_render (withoutDecimals_successResponse (withoutDecimals_sessionToJson session))
  have hresult : (Raw.ofJson (.string Wire.successText)).text? = some Wire.successText :=
    Json.textOf?_piecesOf Wire.successText
  have harguments : (Raw.ofJson (sessionToJson session)).nullable? session? =
      some (some session) := by
    change (session? _).map some = _
    rw [session?_sessionToJson, Option.map_some]
  refine ⟨_, rfl, sessionResponse?_eq_some_iff.1 ?_⟩
  rw [sessionResponse?, hprinted, successResponse, Option.bind_eq_bind, Option.bind_some,
    Raw.fields?_ofJson]
  simp [Fields.required?, Fields.optional?, Fields.valuesAt, hresult, harguments]

theorem confirms_successReply (change : SessionChange) :
    (successReply (.object [])).Confirms (settingsCommand change) := by
  refine ⟨_, ⟨(), Wire.successText⟩, rfl, ?_, rfl⟩
  rw [Command.readResponse?, Text.ofUtf8?_eq_some_iff.2 rfl, Option.bind_eq_bind, Option.bind_some,
    Json.parse?_render (withoutDecimals_successResponse (.object (by simp)))]
  rfl

/-- A host that is nothing but its settings.  It asks for a session id. -/
def settingsHost : Host Session := fun request session =>
  if request.sessionId ≠ some "0" then
    (.ok { status := conflictStatus, sessionId := some [48], body := .ok [] }, session)
  else match request.body.get? "method", request.body.get? "arguments" with
    | some (.string "session-get"), _ => (.ok (successReply (sessionToJson session)), session)
    | some (.string "session-set"), some (.object arguments) =>
      (.ok (successReply (.object [])), (changeOf arguments).applyTo session)
    | _, _ => (.error .noReply, session)

theorem settingsHost_keepsSettings (endpoint : Endpoint) :
    settingsHost.KeepsSettings endpoint id fun _ => "0" where
  tells known d := by
    by_cases hknown : known = some "0"
    · refine ⟨successReply (sessionToJson d), d, ?_,
        .inr ⟨rfl, tells_successReply d, rfl⟩⟩
      rw [hknown]
      rfl
    · exact ⟨_, d, if_pos hknown, .inl ⟨hknown, rfl, rfl, rfl⟩⟩
  changes change known d := by
    by_cases hknown : known = some "0"
    · refine ⟨successReply (.object []), _, ?_, .inr ⟨by decide, confirms_successReply change, rfl⟩⟩
      rw [hknown]
      rfl
    · exact ⟨_, d, if_pos hknown, .inl ⟨hknown, rfl, rfl, rfl⟩⟩

/-- The endpoint of a daemon on the same machine. -/
def localEndpoint : Endpoint where
  url := {
    scheme := "http".toList, username := [], password := []
    host := some (.domain "localhost".toList), port := some 9091
    path := .segments ["transmission".toList, "rpc".toList], query := none, fragment := none }
  credentials := none
  timeoutSecs := 30

end TorrentRemote.Rpc
