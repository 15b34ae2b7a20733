import TorrentRemote.Proofs.Rpc.Host

/-!
# Asking for the settings

A client asks for the settings with the session id that it was told last.  If it is refused and told
another one, it asks once more, and no more than once.  So whatever a host replies in a whole run,
each request carries the last id that was told before it, and the last reply to a call tells how the
call ends.

## Main definitions

* `Rpc.TellsId`, `Rpc.LastTold` : the session id that one refusal tells, and the last that was told.
* `Rpc.Settles` : how a call ends by what came back last.
* `Rpc.Host.inquiries` : calls for the settings, one after another, with what was tried in each.
* `Rpc.IsHandshake` : the requests and the result of a call after others.

## Main results

* `Rpc.settles_ok_iff` : which replies make a call succeed.
* `Rpc.isHandshake_inquire` : one call, after any others.
* `Rpc.settings_handshakes` : any number of calls.
-/

namespace TorrentRemote.Rpc

open Daemon (Session)

variable {τ : Type} {host : Host τ} {endpoint : Endpoint} {known : Option String} {d d' : τ}
  {tries : Nat} {back : Except Failure Reply} {id : String}

/-! ### Session ids -/

/-- A character of a readable header: a tab, a space, or what can be seen of ASCII. -/
def IsReadable (c : Char) : Prop := c = '\t' ∨ (' ' ≤ c ∧ c ≤ '~')

/-- A header has these bytes and is the text, which is readable. -/
def HeaderTells (bytes : List UInt8) (text : String) : Prop :=
  bytes = Text.utf8 text ∧ ∀ c ∈ text.toList, IsReadable c

/-- A request is refused and told a session id. -/
def TellsId (back : Except Failure Reply) (id : String) : Prop :=
  ∃ reply bytes, back = .ok reply ∧ reply.status = 409 ∧ reply.sessionId = some bytes ∧
    HeaderTells bytes id

theorem TellsId.exists_ok (h : TellsId back id) : ∃ reply, back = .ok reply := by
  obtain ⟨reply, _, hreply, -⟩ := h
  exact ⟨reply, hreply⟩

theorem IsReadable.lt {c : Char} (h : IsReadable c) : c.toNat < 0x80 := by
  rcases h with rfl | ⟨-, hle⟩
  · decide
  · exact Nat.lt_of_le_of_lt (show c.toNat ≤ '~'.toNat from hle) (by decide)

/-- The bytes of readable characters. -/
theorem isReadable_ofNat_iff {byte : UInt8} : IsReadable (Char.ofNat byte.toNat) ↔
    ((32 ≤ byte && byte < 127) || byte == 9) = true := by
  have hle {a b : Char} : a ≤ b ↔ a.toNat ≤ b.toNat := Iff.rfl
  simp only [IsReadable, Bool.or_eq_true, Bool.and_eq_true, decide_eq_true_eq, beq_iff_eq,
    UInt8.le_iff_toNat_le, UInt8.lt_iff_toNat_lt, ← UInt8.toNat_inj, hle, ← Char.toNat_inj,
    Text.toNat_ofNat_byte]
  change byte.toNat = 9 ∨ (32 ≤ byte.toNat ∧ byte.toNat ≤ 126) ↔
    (32 ≤ byte.toNat ∧ byte.toNat < 127) ∨ byte.toNat = 9
  omega

theorem headerText?_eq_some_iff {bytes : List UInt8} {text : String} :
    headerText? bytes = some text ↔ HeaderTells bytes text := by
  simp only [headerText?, List.all_eq_true, ← isReadable_ofNat_iff, Option.ite_none_right_eq_some,
    Option.some.injEq, HeaderTells]
  constructor
  · rintro ⟨hbytes, rfl⟩
    refine ⟨(Text.utf8_ofList_byteChars fun byte hbyte => ?_).symm, ?_⟩
    · rw [← Text.toNat_ofNat_byte]
      exact (hbytes byte hbyte).lt
    · rw [String.toList_ofList]
      exact List.forall_mem_map.2 hbytes
  · rintro ⟨rfl, htext⟩
    have hchars : Text.byteChars (Text.utf8 text) = text.toList := by
      rw [Text.utf8_eq_flatMap]
      exact Text.byteChars_encode_of_ascii fun c hc => (htext c hc).lt
    refine ⟨fun byte hbyte => htext _ ?_, by rw [hchars, String.ofList_toList]⟩
    rw [← hchars]
    exact List.mem_map.2 ⟨byte, hbyte, rfl⟩

theorem tellsId_ok_iff {reply : Reply} : TellsId (.ok reply) id ↔
    reply.status = conflictStatus ∧ reply.sessionId.bind headerText? = some id := by
  simp only [Option.bind_eq_some_iff, headerText?_eq_some_iff]
  constructor
  · rintro ⟨_, bytes, ⟨⟩, hstatus, hbytes, htells⟩
    exact ⟨hstatus, bytes, hbytes, htells⟩
  · rintro ⟨hstatus, bytes, hbytes, htells⟩
    exact ⟨reply, bytes, rfl, hstatus, hbytes, htells⟩

/-! ### How a call ends -/

/-- How a call for the settings ends whose last request brought back the first argument.  Of several
reasons to fail the status comes first, then the body, then the result, then the arguments. -/
inductive Settles (endpoint : Endpoint) :
    Except Failure Reply → Except ClientError Session → Prop
  | noReply (failure : Failure) :
      Settles endpoint (.error failure) (.error (failure.toError endpoint))
  | refusedAgain (reply : Reply) (id : String) (hid : TellsId (.ok reply) id) :
      Settles endpoint (.ok reply) (.error (.communication "session id negotiation failed"))
  | withoutId (reply : Reply) (hstatus : reply.status = 409)
      (hid : ∀ id, ¬ TellsId (.ok reply) id) :
      Settles endpoint (.ok reply) (.error (.server "409 response without session id"))
  | unauthorized (reply : Reply) (hstatus : reply.status = 401) :
      Settles endpoint (.ok reply) (.error .unauthorized)
  | otherStatus (reply : Reply) (hconflict : reply.status ≠ 409)
      (hunauthorized : reply.status ≠ 401)
      (hstatus : ¬ (200 ≤ reply.status ∧ reply.status < 300)) :
      Settles endpoint (.ok reply) (.error (.server ("HTTP " ++ statusText reply.status)))
  | brokenOff (reply : Reply) (failure : Failure)
      (hstatus : 200 ≤ reply.status ∧ reply.status < 300) (hbody : reply.body = .error failure) :
      Settles endpoint (.ok reply) (.error (failure.toError endpoint))
  | unreadable (reply : Reply) (bytes : List UInt8)
      (hstatus : 200 ≤ reply.status ∧ reply.status < 300) (hbody : reply.body = .ok bytes)
      (hnone : ∀ result session, ¬ BodyTells bytes result session) :
      Settles endpoint (.ok reply)
        (.error (.communication "invalid response: error decoding response body"))
  | failed (reply : Reply) (result : String) (session : Option Session)
      (hstatus : 200 ≤ reply.status ∧ reply.status < 300) (hbody : reply.Tells result session)
      (hresult : result ≠ "success") :
      Settles endpoint (.ok reply) (.error (.server result))
  | withoutArguments (reply : Reply) (hstatus : 200 ≤ reply.status ∧ reply.status < 300)
      (hbody : reply.Tells "success" none) :
      Settles endpoint (.ok reply) (.error (.communication "response without arguments"))
  | told (reply : Reply) (session : Session) (hstatus : 200 ≤ reply.status ∧ reply.status < 300)
      (hbody : reply.Tells "success" (some session)) :
      Settles endpoint (.ok reply) (.ok session)

/-- A call succeeds exactly with a reply that succeeds and tells settings. -/
theorem settles_ok_iff {session : Session} : Settles endpoint back (.ok session) ↔
    ∃ reply, back = .ok reply ∧ (200 ≤ reply.status ∧ reply.status < 300) ∧
      reply.Tells "success" (some session) := by
  constructor
  · rintro ⟨⟩
    exact ⟨_, rfl, ‹_›, ‹_›⟩
  · rintro ⟨reply, rfl, hstatus, hbody⟩
    exact .told reply session hstatus hbody

/-- No other end is possible after such a reply. -/
theorem Settles.eq_ok {reply : Reply} {result : Except ClientError Session} {session : Session}
    (h : Settles endpoint (.ok reply) result) (hstatus : 200 ≤ reply.status ∧ reply.status < 300)
    (hbody : reply.Tells "success" (some session)) : result = .ok session := by
  cases h with
  | refusedAgain _ id hid =>
    have hconflict : reply.status = 409 := (tellsId_ok_iff.1 hid).1
    omega
  | withoutId _ hconflict => omega
  | unauthorized _ hunauthorized => omega
  | otherStatus _ _ _ hother => exact absurd hstatus hother
  | brokenOff _ failure _ hfailure =>
    obtain ⟨bytes, hbytes, -⟩ := hbody
    cases hfailure.symm.trans hbytes
  | unreadable _ bytes _ hbytes hnone =>
    obtain ⟨_, hbytes', htells⟩ := hbody
    cases hbytes.symm.trans hbytes'
    exact absurd htells (hnone _ _)
  | failed _ result _ _ hfailed hresult => exact absurd (hfailed.unique hbody).1 hresult
  | withoutArguments _ _ hnone => cases (hnone.unique hbody).2
  | told _ session' _ htold =>
    cases (htold.unique hbody).2
    rfl

theorem settles_readSession {reply : Reply}
    (hstatus : 200 ≤ reply.status ∧ reply.status < 300) :
    Settles endpoint (.ok reply) (readSession endpoint reply.body) := by
  cases hbody : reply.body with
  | error failure => exact .brokenOff reply failure hstatus hbody
  | ok bytes =>
    rw [readSession]
    cases hresponse : sessionResponse? bytes with
    | none =>
      have hnone := sessionResponse?_eq_none_iff.1 hresponse
      exact .unreadable reply bytes hstatus hbody hnone
    | some response =>
      obtain ⟨result, session⟩ := response
      have htells : reply.Tells result session :=
        ⟨bytes, hbody, sessionResponse?_eq_some_iff.1 hresponse⟩
      change Settles endpoint _ (SessionResponse.toResult ⟨result, session⟩)
      rw [SessionResponse.toResult]
      by_cases hresult : result = Wire.successText
      · rw [if_neg (not_not.2 hresult)]
        subst hresult
        cases session with
        | none => exact .withoutArguments reply hstatus htells
        | some session => exact .told reply session hstatus htells
      · rw [if_pos hresult]
        exact .failed reply result session hstatus htells hresult

/-! ### One request -/

theorem isSuccess_iff {status : Nat} : isSuccess status ↔ 200 ≤ status ∧ status < 300 := by
  simp [isSuccess]

/-- What comes back without a new session id ends the call, and the known one is kept. -/
theorem run_exchangeSession_of_silent
    (h : (host (requestTo endpoint known sessionQuery)).run d = (back, d'))
    (hsilent : ∀ id, ¬ TellsId back id) :
    ∃ result, ((exchangeSession endpoint (tries + 1) known).run host).run d =
      ((result, known), d') ∧ Settles endpoint back result := by
  rw [exchangeSession, run_send_bind _ h]
  cases back with
  | error failure => exact ⟨_, rfl, .noReply failure⟩
  | ok reply =>
    dsimp only
    by_cases hconflict : reply.status = conflictStatus
    · have hid : reply.sessionId.bind headerText? = none :=
        Option.eq_none_iff_forall_ne_some.2 fun id hid =>
          hsilent id (tellsId_ok_iff.2 ⟨hconflict, hid⟩)
      rw [if_pos hconflict, hid]
      exact ⟨_, rfl, .withoutId reply hconflict hsilent⟩
    rw [if_neg hconflict]
    by_cases hunauthorized : reply.status = unauthorizedStatus
    · rw [if_pos hunauthorized]
      exact ⟨_, rfl, .unauthorized reply hunauthorized⟩
    rw [if_neg hunauthorized]
    by_cases hsuccess : isSuccess reply.status
    · rw [if_pos hsuccess]
      exact ⟨_, rfl, settles_readSession (isSuccess_iff.1 hsuccess)⟩
    · rw [if_neg hsuccess]
      exact ⟨_, rfl, .otherStatus reply hconflict hunauthorized (mt isSuccess_iff.2 hsuccess)⟩

/-- A new session id is used for the next request. -/
theorem run_exchangeSession_of_tellsId
    (h : (host (requestTo endpoint known sessionQuery)).run d = (back, d'))
    (htold : TellsId back id) :
    ((exchangeSession endpoint (tries + 1) known).run host).run d =
      ((exchangeSession endpoint tries (some id)).run host).run d' := by
  obtain ⟨reply, rfl⟩ := htold.exists_ok
  obtain ⟨hstatus, hid⟩ := tellsId_ok_iff.1 htold
  exact run_exchangeSession_of_refused h hstatus hid

/-! ### One call after another -/

/-- A request with what came back. -/
abbrev Trial : Type := Request × Except Failure Reply

/-- A host whose requests are recorded with what came back. -/
def Host.recorded (host : Host τ) : Host (τ × List Trial) := fun request s =>
  let outcome := (host request).run s.1
  (outcome.1, outcome.2, s.2 ++ [(request, outcome.1)])

/-- A call for the settings: what was tried, the result, and the session id that is known then. -/
structure Inquiry where
  trials : List Trial
  result : Except ClientError Session
  known : Option String

/-- A call for the settings, and what the client and the host remember afterwards. -/
def Host.inquire (host : Host τ) (endpoint : Endpoint) (s : SessionIds × τ) :
    Inquiry × SessionIds × τ :=
  let outcome := (host.recorded.server endpoint .getSession).run (s.1, s.2, [])
  ({ trials := outcome.2.2.2, result := outcome.1, known := outcome.2.1.settings },
    outcome.2.1, outcome.2.2.1)

/-- Calls for the settings, one after another. -/
def Host.inquiries (host : Host τ) (endpoint : Endpoint) : Nat → SessionIds × τ → List Inquiry
  | 0, _ => []
  | count + 1, s =>
    (host.inquire endpoint s).1 :: inquiries host endpoint count (host.inquire endpoint s).2

/-- The session id that was told last, if any was told. -/
inductive LastTold : List Trial → Option String → Prop
  | start : LastTold [] none
  | told {trials : List Trial} {request : Request} {back : Except Failure Reply} {id : String}
      (h : TellsId back id) : LastTold (trials ++ [(request, back)]) (some id)
  | silent {trials : List Trial} {request : Request} {back : Except Failure Reply}
      {known : Option String} (h : LastTold trials known) (hback : ∀ id, ¬ TellsId back id) :
      LastTold (trials ++ [(request, back)]) known

/-- Each request carries the credentials, and the session id that was told last before it, where
`before` was tried earlier. -/
def CarriesLast (endpoint : Endpoint) (before trials : List Trial) : Prop :=
  ∀ sent trial later, trials = sent ++ trial :: later →
    ∃ known, LastTold (before ++ sent) known ∧ trial.1 = requestTo endpoint known sessionQuery

theorem carriesLast_nil (before : List Trial) : CarriesLast endpoint before [] := by
  intro sent trial later htrials
  exact absurd htrials.symm (List.append_ne_nil_of_right_ne_nil sent (List.cons_ne_nil trial later))

theorem CarriesLast.cons {before trials : List Trial} (h : LastTold before known)
    (htrials : CarriesLast endpoint
      (before ++ [(requestTo endpoint known sessionQuery, back)]) trials) :
    CarriesLast endpoint before ((requestTo endpoint known sessionQuery, back) :: trials) := by
  intro sent later rest hsplit
  cases sent with
  | nil =>
    obtain ⟨rfl, -⟩ := List.cons.inj hsplit
    exact ⟨known, by rwa [List.append_nil], rfl⟩
  | cons first sent =>
    obtain ⟨rfl, hrest⟩ := List.cons.inj hsplit
    obtain ⟨known', hlast, hlater⟩ := htrials sent later rest hrest
    rw [List.append_assoc, List.singleton_append] at hlast
    exact ⟨known', hlast, hlater⟩

/-- A call that comes after the trials of others. -/
structure IsHandshake (endpoint : Endpoint) (before : List Trial) (inquiry : Inquiry) : Prop where
  /-- There is one request, and a second one exactly if the first was refused and told an id. -/
  once_or_twice :
    (∃ only, inquiry.trials = [only] ∧ ∀ id, ¬ TellsId only.2 id) ∨
    ∃ first second id, inquiry.trials = [first, second] ∧ TellsId first.2 id
  carriesLast : CarriesLast endpoint before inquiry.trials
  /-- Nothing but such a refusal changes the session id that is known. -/
  lastTold : LastTold (before ++ inquiry.trials) inquiry.known
  /-- What came back last tells how the call ends. -/
  settles : ∃ last, inquiry.trials.getLast? = some last ∧ Settles endpoint last.2 inquiry.result
  /-- The call succeeds exactly if the last reply succeeds and tells settings. -/
  ok_iff (session : Session) : inquiry.result = .ok session ↔
    ∃ sent request reply, inquiry.trials = sent ++ [(request, .ok reply)] ∧
      (200 ≤ reply.status ∧ reply.status < 300) ∧ reply.Tells "success" (some session)

theorem eq_ok_iff_of_settles {trials : List Trial} {last : Trial}
    {result : Except ClientError Session} (hlast : trials.getLast? = some last)
    (h : Settles endpoint last.2 result) (session : Session) : result = .ok session ↔
      ∃ sent request reply, trials = sent ++ [(request, .ok reply)] ∧
        (200 ≤ reply.status ∧ reply.status < 300) ∧ reply.Tells "success" (some session) := by
  obtain ⟨sent, rfl⟩ := List.getLast?_eq_some_iff.1 hlast
  constructor
  · rintro rfl
    obtain ⟨reply, hreply, htells⟩ := settles_ok_iff.1 h
    exact ⟨sent, last.1, reply, by rw [← hreply], htells⟩
  · rintro ⟨_, request, reply, htrials, hstatus, hbody⟩
    obtain rfl : last = (request, .ok reply) := by simpa using congrArg List.getLast? htrials
    exact h.eq_ok hstatus hbody

variable {before : List Trial}

/-- A call of one request. -/
theorem isHandshake_of_one {result : Except ClientError Session} (hknown : LastTold before known)
    (hsilent : ∀ id, ¬ TellsId back id) (h : Settles endpoint back result) :
    IsHandshake endpoint before
      ⟨[(requestTo endpoint known sessionQuery, back)], result, known⟩ where
  once_or_twice := .inl ⟨_, rfl, hsilent⟩
  carriesLast := .cons hknown (carriesLast_nil _)
  lastTold := hknown.silent hsilent
  settles := ⟨_, rfl, h⟩
  ok_iff := eq_ok_iff_of_settles rfl h

/-- A call of two requests. -/
theorem isHandshake_of_two {first : Except Failure Reply} {known' : Option String}
    {result : Except ClientError Session} (hknown : LastTold before known)
    (hfirst : TellsId first id) (hknown' : LastTold (before ++
      [(requestTo endpoint known sessionQuery, first),
        (requestTo endpoint (some id) sessionQuery, back)]) known')
    (h : Settles endpoint back result) :
    IsHandshake endpoint before ⟨[(requestTo endpoint known sessionQuery, first),
      (requestTo endpoint (some id) sessionQuery, back)], result, known'⟩ where
  once_or_twice := .inr ⟨_, _, id, rfl, hfirst⟩
  carriesLast := .cons hknown (.cons (.told hfirst) (carriesLast_nil _))
  lastTold := hknown'
  settles := ⟨_, rfl, h⟩
  ok_iff := eq_ok_iff_of_settles rfl h

theorem Host.run_recorded {request : Request} (h : (host request).run d = (back, d'))
    (trials : List Trial) :
    (host.recorded request).run (d, trials) = (back, d', trials ++ [(request, back)]) := by
  change (((host request).run d).1, ((host request).run d).2,
    trials ++ [(request, ((host request).run d).1)]) = _
  rw [h]

/-- One call is a handshake, whatever comes back. -/
theorem exists_run_exchangeSession (host : Host τ) (endpoint : Endpoint)
    (hknown : LastTold before known) (d : τ) : ∃ inquiry d',
      ((exchangeSession endpoint maxSettingsRequests known).run host.recorded).run (d, []) =
        ((inquiry.result, inquiry.known), d', inquiry.trials) ∧
      IsHandshake endpoint before inquiry := by
  obtain ⟨first, d₁, hfirst⟩ : ∃ first d₁,
      (host (requestTo endpoint known sessionQuery)).run d = (first, d₁) := ⟨_, _, rfl⟩
  rw [maxSettingsRequests]
  by_cases htold : ∃ id, TellsId first id
  · obtain ⟨id, hid⟩ := htold
    rw [run_exchangeSession_of_tellsId (host.run_recorded hfirst []) hid]
    obtain ⟨second, d₂, hsecond⟩ : ∃ second d₂,
        (host (requestTo endpoint (some id) sessionQuery)).run d₁ = (second, d₂) := ⟨_, _, rfl⟩
    by_cases htold' : ∃ id', TellsId second id'
    · obtain ⟨id', hid'⟩ := htold'
      rw [run_exchangeSession_of_tellsId (host.run_recorded hsecond _) hid']
      -- No request is left.
      obtain ⟨reply, rfl⟩ := hid'.exists_ok
      refine ⟨_, d₂, rfl, isHandshake_of_two hknown hid ?_ (.refusedAgain reply id' hid')⟩
      rw [List.append_cons]
      exact .told hid'
    · obtain ⟨result, hrun, hsettles⟩ := run_exchangeSession_of_silent
        (host.run_recorded hsecond _) (not_exists.1 htold')
      refine ⟨_, d₂, hrun, isHandshake_of_two hknown hid ?_ hsettles⟩
      rw [List.append_cons]
      exact (LastTold.told hid).silent (not_exists.1 htold')
  · obtain ⟨result, hrun, hsettles⟩ := run_exchangeSession_of_silent
      (host.run_recorded hfirst []) (not_exists.1 htold)
    exact ⟨_, d₁, hrun, isHandshake_of_one hknown (not_exists.1 htold) hsettles⟩

variable {s : SessionIds × τ}

/-- A call that comes after the trials of others, if the last session id that was told is known. -/
theorem isHandshake_inquire (host : Host τ) (endpoint : Endpoint)
    (h : LastTold before s.1.settings) :
    IsHandshake endpoint before (host.inquire endpoint s).1 ∧
      (host.inquire endpoint s).2.1.settings = (host.inquire endpoint s).1.known := by
  obtain ⟨inquiry, d', hrun, hcall⟩ := exists_run_exchangeSession host endpoint h s.2
  have hserver := Host.run_server_bind (s := (s.1, s.2, []))
    (run_answer_getSession endpoint s.1) hrun
  have hinquire : host.inquire endpoint s =
      (inquiry, { s.1 with settings := inquiry.known }, d') := by
    rw [Host.inquire, hserver]
  rw [hinquire]
  exact ⟨hcall, rfl⟩

/-- Calls one after another, if the last session id that was told before them is known. -/
theorem isHandshake_inquiries (host : Host τ) (endpoint : Endpoint) (count : Nat)
    (h : LastTold before s.1.settings) {earlier later : List Inquiry} {inquiry : Inquiry}
    (hrun : host.inquiries endpoint count s = earlier ++ inquiry :: later) :
    IsHandshake endpoint (before ++ earlier.flatMap Inquiry.trials) inquiry := by
  induction count generalizing s before earlier with
  | zero =>
    rw [Host.inquiries] at hrun
    exact absurd hrun.symm (List.append_ne_nil_of_right_ne_nil _ (List.cons_ne_nil _ _))
  | succ count ih =>
    obtain ⟨hcall, hknown⟩ := isHandshake_inquire host endpoint h
    rw [Host.inquiries] at hrun
    cases earlier with
    | nil =>
      obtain ⟨rfl, -⟩ := List.cons.inj hrun
      rwa [List.flatMap_nil, List.append_nil]
    | cons first earlier =>
      obtain ⟨rfl, hrest⟩ := List.cons.inj hrun
      rw [List.flatMap_cons, ← List.append_assoc]
      exact ih (hknown ▸ hcall.lastTold) hrest

theorem length_inquiries (host : Host τ) (endpoint : Endpoint) (count : Nat)
    (s : SessionIds × τ) : (host.inquiries endpoint count s).length = count := by
  induction count generalizing s with
  | zero => rfl
  | succ count ih => rw [Host.inquiries, List.length_cons, ih]

/-- **The handshake for the settings.**  A new client asks a host for the settings any number of
times, and the host replies what it likes, or nothing.  Each call sends one request, and a second
one exactly if the first was refused with a session id that can be read.  Each request carries the
credentials and the session id that was told last in the whole run, or none if none was told.  The
last reply to a call tells how it ends, and the session id that was told last is kept, whether the
call succeeds or fails. -/
theorem settings_handshakes (host : Host τ) (endpoint : Endpoint) (d : τ) (count : Nat) :
    (host.inquiries endpoint count ({}, d)).length = count ∧
    ∀ earlier inquiry later,
      host.inquiries endpoint count ({}, d) = earlier ++ inquiry :: later →
      IsHandshake endpoint (earlier.flatMap Inquiry.trials) inquiry := by
  refine ⟨length_inquiries host endpoint count ({}, d), fun earlier inquiry later hrun => ?_⟩
  have hstart : LastTold [] ({} : SessionIds).settings := .start
  simpa using isHandshake_inquiries host endpoint count hstart hrun

/-- The session id is told to the first of two calls, and the second begins with it.  The second
call succeeds. -/
theorem settings_handshakes_settingsHost : ∃ first second : Inquiry,
    settingsHost.inquiries localEndpoint 2 ({}, ⟨"/", ⟨0, false⟩, ⟨0, false⟩⟩) =
      [first] ++ second :: [] ∧
    first.trials.map (fun trial => trial.1.sessionId) = [none, some "0"] ∧
    second.trials.map (fun trial => trial.1.sessionId) = [some "0"] ∧
    second.result = .ok ⟨"/", ⟨0, false⟩, ⟨0, false⟩⟩ ∧
    IsHandshake localEndpoint ([first].flatMap Inquiry.trials) second := by
  have hsecond := (settings_handshakes settingsHost localEndpoint
    (⟨"/", ⟨0, false⟩, ⟨0, false⟩⟩ : Session) 2).2 [_] _ [] rfl
  refine ⟨_, _, rfl, rfl, rfl, ?_, hsecond⟩
  exact (hsecond.ok_iff _).2 ⟨[], _, _, rfl, by decide, tells_successReply _⟩

end TorrentRemote.Rpc
