import TorrentRemote.Client.Basic
import TorrentRemote.Setting

/-!
# Status and settings of a client

The settings of a client are settings of its daemon.  A value that a setting does not take is
refused before the daemon is called.
-/

namespace TorrentRemote.Client

/-- The free space of a status if the daemon does not tell it. -/
def unknownSpace : Int64 := -1

/-- The state of a client as a whole. -/
def status (client : Client) : Operation Status := do
  let session ← perform .getSession
  let stats ← perform .getStats
  let space ← ExceptT.lift (perform (.freeSpace (Daemon.Session.downloadDir session))).run
  let freeSpace : Int64 := match space with
    | .ok bytes => bytes
    | .error _ => unknownSpace
  pure (Daemon.statusOf session stats freeSpace client.config.noAdd)

/-- The change of the daemon's settings that gives a setting a value. -/
def settingChange (setting : Setting) (value : String) :
    Except ClientError Daemon.SessionChange :=
  match setting with
  | .globalDownloadSpeedLimit => do
    pure { downLimit := .ofBytes (← setting.parseSpeed value) }
  | .globalUploadSpeedLimit => do
    pure { upLimit := .ofBytes (← setting.parseSpeed value) }
  | .savePath =>
    let path := Text.trim value
    if path = "" then .error (.invalidValue setting.name value)
    else .ok { downloadDir := some path }

/-- Gives the setting of the given name a value. -/
def setSetting (name value : String) : Operation Unit := do
  let setting ← ExceptT.mk (pure (Setting.ofName name))
  let change ← ExceptT.mk (pure (settingChange setting value))
  exclusively (perform (.setSession change))

/-- The text of a setting of the daemon. -/
def settingText (setting : Setting) (session : Daemon.Session) : String :=
  match setting with
  | .globalDownloadSpeedLimit => Text.showInt64 (Daemon.globalLimit session.downLimit)
  | .globalUploadSpeedLimit => Text.showInt64 (Daemon.globalLimit session.upLimit)
  | .savePath => session.downloadDir

/-- The text of the setting of the given name. -/
def getSetting (name : String) : Operation String := do
  let setting ← ExceptT.mk (pure (Setting.ofName name))
  let session ← perform .getSession
  pure (settingText setting session)

end TorrentRemote.Client
