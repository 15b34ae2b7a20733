import TorrentRemote.Proofs.Daemon.Store

/-!
# Daemons that keep their settings

What a daemon does to its settings when it is asked to change them: the fields that are given
replace those before, and all others stay.  What a daemon is told of a change may differ from what a
client asks for, since limits are cut down on the way.

## Main definitions

* `Daemon.SessionChange.applyTo` : the settings after a change.
* `Daemon.SessionChange.mapKib` : a change whose limits have become other ones.
* `Daemon.Server.KeepsSettings` : a daemon whose settings become what it is told and no more.

## Main results

* `Daemon.settingsServer_keepsSettings` : there is such a daemon.
-/

namespace TorrentRemote.Daemon

/-- The settings after a change. -/
def SessionChange.applyTo (change : SessionChange) (session : Session) : Session where
  downloadDir := change.downloadDir.getD session.downloadDir
  downLimit := change.downLimit.applyTo session.downLimit
  upLimit := change.upLimit.applyTo session.upLimit

/-- The change of a limit after its number has become another one. -/
def LimitChange.mapKib (cut : Int64 → Int64) (change : LimitChange) : LimitChange :=
  ⟨change.kib.map cut, change.enabled⟩

/-- The change of the settings after the numbers of its limits have become other ones. -/
def SessionChange.mapKib (cut : Int64 → Int64) (change : SessionChange) : SessionChange where
  downloadDir := change.downloadDir
  downLimit := change.downLimit.mapKib cut
  upLimit := change.upLimit.mapKib cut

theorem LimitChange.mapKib_id (change : LimitChange) : change.mapKib id = change := by
  simp only [mapKib, Option.map_id_fun, id_eq]

theorem SessionChange.mapKib_id (change : SessionChange) : change.mapKib id = change := by
  simp only [mapKib, LimitChange.mapKib_id]

/-- A limit that is switched off keeps its number. -/
theorem LimitChange.applyTo_ofBytes_of_nonpos {bytes : Int64} (h : bytes.toInt ≤ 0)
    (cut : Int64 → Int64) (limit : SpeedLimit) :
    ((ofBytes bytes).mapKib cut).applyTo limit = ⟨limit.kib, false⟩ := by
  rw [ofBytes, SpeedLimit.ofBytes_of_nonpos h]
  rfl

/-- The change to a positive limit in bytes per second. -/
theorem LimitChange.ofBytes_of_pos {bytes : Int64} (h : 0 < bytes.toInt) :
    ofBytes bytes = ⟨some (SpeedLimit.ofBytes bytes).kib, some true⟩ := by
  rw [ofBytes, SpeedLimit.ofBytes_of_pos h]
  rfl

namespace Server

variable {σ : Type}

/-- A daemon whose settings, which `session` tells, become what it is told and no more.  What it is
told of a change is left to `told`. -/
structure KeepsSettings (server : Server σ) (session : σ → Session)
    (told : SessionChange → SessionChange) : Prop where
  tells (d : σ) : ∃ d', (server .getSession).run d = (.ok (session d), d') ∧ session d' = session d
  changes (d : σ) (change : SessionChange) : ∃ d',
    (server (.setSession change)).run d = (.ok (), d') ∧
      session d' = (told change).applyTo (session d)

theorem KeepsSettings.mapKib_id {server : Server σ} {session : σ → Session}
    (h : server.KeepsSettings session id) :
    server.KeepsSettings session (SessionChange.mapKib id) := by
  rwa [show SessionChange.mapKib id = id from funext SessionChange.mapKib_id]

end Server

/-- A daemon that is nothing but its settings. -/
def settingsServer : Server Session
  | .getSession => fun session => (.ok session, session)
  | .setSession change => fun session => (.ok (), change.applyTo session)
  | _ => fun session => (.error (.server "not supported"), session)

theorem settingsServer_keepsSettings : settingsServer.KeepsSettings id id where
  tells session := ⟨session, rfl, rfl⟩
  changes session change := ⟨change.applyTo session, rfl, rfl⟩

end TorrentRemote.Daemon
