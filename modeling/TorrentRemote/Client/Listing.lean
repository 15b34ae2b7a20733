import TorrentRemote.Client.Basic

/-!
# Listing torrents

A list comes from the cache if it holds one and else from the daemon.  A list from the daemon is
kept only if nothing emptied the cache in the meantime.
-/

namespace TorrentRemote.Client

/-- All torrents, from the cache or from the daemon. -/
def allTorrents : Operation (List Torrent) := do
  match ← step .readCache with
  | some torrents => pure torrents
  | none =>
    let generation ← step .readGeneration
    let records ← perform (.getTorrents none)
    let torrents := List.map Daemon.TorrentRecord.toTorrent records
    let _ ← step (.store generation torrents)
    pure torrents

/-- The torrents in a state and of a category; without state or category, in or of any. -/
def torrents (state : Option TorrentState) (category : Option String) :
    Operation (List Torrent) := do
  let all ← allTorrents
  pure (all.filter fun torrent => torrent.matchesFilter state category)

/-- Forgets the list in the cache. -/
def purgeCache : Action Unit := Interaction.request Step.invalidate

/-- Whether a torrent of the daemon is stored under the given name.  If the daemon does not answer,
none is. -/
def rootPathExists (folder : String) : Action Bool :=
  if folder = "" then pure false
  else do
    match ← (perform (.getTorrents none)).run with
    | .ok records => pure (List.any records fun record => record.name == folder)
    | .error _ => pure false

end TorrentRemote.Client
