import TorrentRemote.Error
import TorrentRemote.Text.Blank

/-!
# Settings of a running client

The settings that every client can read and change while it runs.
-/

namespace TorrentRemote

/-- A setting of a running client. -/
inductive Setting where
  /-- Download limit for all torrents together, in bytes per second. -/
  | globalDownloadSpeedLimit
  /-- Upload limit for all torrents together, in bytes per second. -/
  | globalUploadSpeedLimit
  /-- Where new torrents are stored. -/
  | savePath
  deriving DecidableEq

namespace Setting

/-- All settings. -/
def all : List Setting := [.globalDownloadSpeedLimit, .globalUploadSpeedLimit, .savePath]

/-- The name of a setting. -/
def name : Setting → String
  | .globalDownloadSpeedLimit => "global_download_speed_limit"
  | .globalUploadSpeedLimit => "global_upload_speed_limit"
  | .savePath => "save_path"

/-- The setting with the given name. -/
def ofName (text : String) : Except ClientError Setting :=
  match all.find? fun setting => setting.name == text with
  | some setting => .ok setting
  | none => .error (.unknownSetting text)

/-- The speed that a text gives, a decimal number that blank characters may surround. -/
def parseSpeed (setting : Setting) (value : String) : Except ClientError Int64 :=
  match Text.readInt64? (Text.trimChars value.toList) with
  | some speed => .ok speed
  | none => .error (.invalidValue setting.name value)

end Setting

end TorrentRemote
