import TorrentRemote.Proofs.Json.Fields
import TorrentRemote.Proofs.Json.Grammar
import TorrentRemote.Rpc.Session

/-!
# What a body tells of the settings

A body is a JSON text whose value gives a result and, if there are any, settings.  Both are records,
which may be written as objects or as arrays.  What a body tells is said by the grammar of JSON and
by what its values tell, without the functions that read a body.

## Main definitions

* `Rpc.SessionTells` : the settings that a value tells.
* `Rpc.BodyTells`, `Rpc.Reply.Tells` : what a body says, with a result and perhaps settings.

## Main results

* `Rpc.sessionResponse?_eq_some_iff` : what is read of a body is what it tells.
* `Rpc.BodyTells.unique` : a body tells no more than one thing.
-/

namespace TorrentRemote.Rpc

open Daemon (Session)
open Json (Raw Fields TextTells NullableTells GivesFields FieldTells)

variable {raw : Raw} {bytes : List UInt8} {result result' : String}
  {session session' : Option Session}

/-! ### Settings -/

/-- What the fields of a record tell of the settings.  Any of them may be missing. -/
structure FieldsTellSession (fields : Fields Raw) (session : Session) : Prop where
  downloadDir : FieldTells TextTells (some "") "download-dir" fields session.downloadDir
  downKib : FieldTells (fun raw kib => raw = .integer kib.toInt) (some 0) "speed-limit-down" fields
    session.downLimit.kib
  downEnabled : FieldTells (fun raw enabled => raw = .bool enabled) (some false)
    "speed-limit-down-enabled" fields session.downLimit.enabled
  upKib : FieldTells (fun raw kib => raw = .integer kib.toInt) (some 0) "speed-limit-up" fields
    session.upLimit.kib
  upEnabled : FieldTells (fun raw enabled => raw = .bool enabled) (some false)
    "speed-limit-up-enabled" fields session.upLimit.enabled

/-- A value tells settings: it is a record with these keys, and any number of its last items may be
missing if it is an array. -/
def SessionTells (raw : Raw) (session : Session) : Prop :=
  ∃ fields, GivesFields ["download-dir", "speed-limit-down", "speed-limit-down-enabled",
    "speed-limit-up", "speed-limit-up-enabled"] 0 raw fields ∧ FieldsTellSession fields session

theorem session?_eq_some_iff {session : Session} :
    session? raw = some session ↔ SessionTells raw session := by
  simp only [session?, Option.bind_eq_bind, Option.bind_eq_some_iff, Raw.fields?_eq_some_iff,
    Fields.optional?_eq_some_iff fun _ _ => Raw.text?_eq_some_iff,
    Fields.optional?_eq_some_iff fun _ _ => Raw.int64?_eq_some_iff,
    Fields.optional?_eq_some_iff fun _ _ => Raw.bool?_eq_some_iff, Option.some.injEq]
  constructor
  · rintro ⟨fields, hfields, _, hdir, _, hdown, _, hdownEnabled, _, hup, _, hupEnabled, rfl⟩
    exact ⟨fields, hfields, hdir, hdown, hdownEnabled, hup, hupEnabled⟩
  · rintro ⟨fields, hfields, hdir, hdown, hdownEnabled, hup, hupEnabled⟩
    exact ⟨fields, hfields, _, hdir, _, hdown, _, hdownEnabled, _, hup, _, hupEnabled, rfl⟩

/-! ### Bodies -/

/-- A body is a JSON text that tells a result, and the settings if there are arguments.  Of an array
neither may be missing. -/
def BodyTells (bytes : List UInt8) (result : String) (session : Option Session) : Prop :=
  ∃ raw fields, Json.IsText (Text.byteChars bytes) raw ∧
    GivesFields ["result", "arguments"] 2 raw fields ∧
    FieldTells TextTells none "result" fields result ∧
    FieldTells (NullableTells SessionTells) (some none) "arguments" fields session

/-- What is read of a body is what it tells. -/
theorem sessionResponse?_eq_some_iff :
    sessionResponse? bytes = some ⟨result, session⟩ ↔ BodyTells bytes result session := by
  simp only [sessionResponse?, Option.bind_eq_bind, Option.bind_eq_some_iff,
    Raw.read?_eq_some_iff, Raw.fields?_eq_some_iff,
    Fields.required?_eq_some_iff fun _ _ => Raw.text?_eq_some_iff,
    Fields.optional?_eq_some_iff fun _ _ =>
      Raw.nullable?_eq_some_iff fun _ _ => session?_eq_some_iff,
    Option.some.injEq, SessionResponse.mk.injEq]
  constructor
  · rintro ⟨raw, htext, fields, hfields, _, hresult, _, harguments, rfl, rfl⟩
    exact ⟨raw, fields, htext, hfields, hresult, harguments⟩
  · rintro ⟨raw, fields, htext, hfields, hresult, harguments⟩
    exact ⟨raw, htext, fields, hfields, result, hresult, session, harguments, rfl, rfl⟩

/-- An array tells the settings by their places, and the last ones may be missing. -/
example : sessionResponse? (Text.utf8 "[\"success\", [\"/\"]]") =
    some ⟨"success", some ⟨"/", ⟨0, false⟩, ⟨0, false⟩⟩⟩ := by
  rfl

theorem sessionResponse?_eq_none_iff :
    sessionResponse? bytes = none ↔ ∀ result session, ¬ BodyTells bytes result session := by
  simp only [Option.eq_none_iff_forall_ne_some, ← sessionResponse?_eq_some_iff]
  constructor
  · exact fun h result session => h ⟨result, session⟩
  · exact fun h response => h response.result response.arguments

/-- A body tells no more than one thing. -/
theorem BodyTells.unique (h : BodyTells bytes result session)
    (h' : BodyTells bytes result' session') : result = result' ∧ session = session' := by
  rw [← sessionResponse?_eq_some_iff] at h h'
  exact SessionResponse.mk.inj (Option.some.inj (h.symm.trans h'))

/-- The body of a reply arrives, and this is what it tells. -/
def Reply.Tells (reply : Reply) (result : String) (session : Option Session) : Prop :=
  ∃ bytes, reply.body = .ok bytes ∧ BodyTells bytes result session

theorem readSession_of_tells {reply : Reply} {session : Session}
    (h : reply.Tells Wire.successText (some session)) (endpoint : Endpoint) :
    readSession endpoint reply.body = .ok session := by
  obtain ⟨bytes, hbytes, htells⟩ := h
  rw [hbytes, readSession]
  simp only [sessionResponse?_eq_some_iff.2 htells]
  rfl

theorem Reply.Tells.unique {reply : Reply} (h : reply.Tells result session)
    (h' : reply.Tells result' session') : result = result' ∧ session = session' := by
  obtain ⟨bytes, hbytes, htells⟩ := h
  obtain ⟨bytes', hbytes', htells'⟩ := h'
  cases hbytes.symm.trans hbytes'
  exact htells.unique htells'

end TorrentRemote.Rpc
