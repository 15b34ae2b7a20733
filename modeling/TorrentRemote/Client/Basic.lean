import TorrentRemote.Config.Basic
import TorrentRemote.Daemon.Call
import TorrentRemote.Daemon.Conversion
import TorrentRemote.Error
import TorrentRemote.Interaction

/-!
# Clients

A client keeps the last torrent list of its daemon until it changes the daemon.  Each operation of a
client is an interaction of small steps: calls of the daemon, steps at the cache, and taking and
giving back the lock that changes of the daemon hold.  A list that was fetched while the cache was
emptied is returned but not kept, which the generation of the cache tells.
-/

namespace TorrentRemote

/-- A client of one daemon. -/
structure Client where
  name : String
  config : ClientConfig

namespace Client

/-- A step of an operation. -/
inductive Step where
  | call (call : Daemon.Call)
  | readCache
  | readGeneration
  /-- Keeps a list if the cache has not been emptied since the given generation. -/
  | store (generation : UInt64) (torrents : List Torrent)
  /-- Empties the cache and begins the next generation. -/
  | invalidate
  | lock
  | unlock

/-- What a step results in. -/
@[reducible] def Step.Result : Step → Type
  | call c => Except ClientError c.Answer
  | readCache => Option (List Torrent)
  | readGeneration => UInt64
  | store .. | invalidate | lock | unlock => Unit

/-- An operation that cannot fail. -/
abbrev Action (α : Type) := Interaction Step Step.Result α

/-- An operation that can fail. -/
abbrev Operation (α : Type) := ExceptT ClientError (Interaction Step Step.Result) α

/-- The operation of one call of the daemon. -/
def perform (call : Daemon.Call) : Operation call.Answer :=
  ExceptT.mk (Interaction.request (Step.call call))

/-- The operation of one step at the cache or the lock. -/
def step (s : Step) : Operation s.Result := ExceptT.lift (Interaction.request s)

/-- An operation after which a step is taken, whether the operation succeeds or fails. -/
def followedBy {α : Type} (operation : Operation α) (last : Step) : Operation α :=
  ExceptT.mk do
    let result ← operation.run
    let _ ← Interaction.request last
    pure result

/-- An operation during which the lock is held. -/
def exclusively {α : Type} (operation : Operation α) : Operation α := do
  let _ ← step .lock
  followedBy operation .unlock

end Client

end TorrentRemote
