/-!
# Speed limits

Clients speak of speed limits in bytes per second, daemons in KiB per second with a switch.  On the
way to the daemon a limit is rounded up, so that a limit never becomes 0.
-/

namespace TorrentRemote

/-- A limit as a daemon stores it: KiB per second, and whether it is in force. -/
structure SpeedLimit where
  kib : Int64
  enabled : Bool
  deriving DecidableEq

namespace SpeedLimit

/-- The limit in bytes per second, or -1 if it is not in force. -/
def toBytes (limit : SpeedLimit) : Int64 :=
  if limit.enabled then Int64.ofIntClamp (limit.kib.toInt * 1024) else -1

/-- The limit for a number of bytes per second; zero and less are no limit. -/
def ofBytes (bytes : Int64) : SpeedLimit :=
  if bytes.toInt ≤ 0 then ⟨0, false⟩ else ⟨Int64.ofInt ((bytes.toInt + 1023) / 1024), true⟩

end SpeedLimit

end TorrentRemote
