import TorrentRemote.Client.Basic

/-!
# Running operations one at a time

The cache of a client and what each step does to it.  Calls of the daemon are answered in a monad,
which the caller chooses.  Operations that run one at a time find the lock always free.
-/

namespace TorrentRemote.Client

/-- The cache of a client. -/
structure Cache where
  torrents : Option (List Torrent) := none
  /-- How often the cache has been emptied. -/
  generation : UInt64 := 0

/-- The cache with a list, if it has not been emptied since the given generation. -/
def Cache.store (cache : Cache) (generation : UInt64) (torrents : List Torrent) : Cache :=
  if cache.generation = generation then { cache with torrents := some torrents } else cache

/-- The empty cache of the next generation. -/
def Cache.invalidate (cache : Cache) : Cache := ⟨none, cache.generation + 1⟩

/-- The result of a step. -/
def Step.run {m : Type → Type} [Monad m]
    (answer : (call : Daemon.Call) → m (Except ClientError call.Answer)) :
    (step : Step) → StateT Cache m step.Result
  | call c => StateT.lift (answer c)
  | readCache => do pure (← get).torrents
  | readGeneration => do pure (← get).generation
  | store generation torrents => modify fun cache => cache.store generation torrents
  | invalidate => modify Cache.invalidate
  | lock => pure ()
  | unlock => pure ()

/-- The result of an operation. -/
def run {m : Type → Type} [Monad m] {α : Type}
    (answer : (call : Daemon.Call) → m (Except ClientError call.Answer)) (action : Action α) :
    StateT Cache m α :=
  action.run (Step.run answer)

end TorrentRemote.Client
