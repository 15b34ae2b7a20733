import TorrentRemote.Rpc.Session

/-!
# Calls over exchanges

Each call of a daemon is a command on a connection, except that the settings are asked for in a
handshake of their own.  The connection and this handshake remember a session id each.
-/

namespace TorrentRemote.Rpc

open Daemon (Call)

/-- The session ids that a daemon told last. -/
structure SessionIds where
  /-- The id for asking for the settings. -/
  settings : Option String := none
  /-- The id for all other calls. -/
  calls : Option String := none

/-- What `finish` makes of the arguments of a successful response to a command. -/
def ask {α : Type} (endpoint : Endpoint) (command : Wire.Command)
    (finish : command.Arguments → Except ClientError α) :
    StateT SessionIds Exchange (Except ClientError α) := fun ids => do
  let (outcome, id) ← Wire.call endpoint command ids.calls
  let arguments := (outcome.mapError (toClientError endpoint)).bind argumentsOf
  pure (arguments.bind finish, { ids with calls := id })

/-- The answer to a call. -/
def answer (endpoint : Endpoint) :
    (call : Call) → StateT SessionIds Exchange (Except ClientError call.Answer)
  | .getTorrents hashes =>
    ask endpoint (.torrentGet torrentFields hashes) fun torrents => .ok (torrents.map recordOf)
  | .addTorrent torrent => ask endpoint (.torrentAdd (torrentAdd torrent)) addOutcome
  | .setTorrents hashes change => ask endpoint (.torrentSet (torrentSet change) hashes) .ok
  | .renamePath hash path name => ask endpoint (.torrentRenamePath [hash] path name) .ok
  | .startTorrents hashes => ask endpoint (.torrentAction .start hashes) .ok
  | .stopTorrents hashes => ask endpoint (.torrentAction .stop hashes) .ok
  | .removeTorrents hashes deleteFiles => ask endpoint (.torrentRemove hashes deleteFiles) .ok
  | .getSession => fun ids => do
    let (result, id) ← exchangeSession endpoint maxSettingsRequests ids.settings
    pure (result, { ids with settings := id })
  | .setSession change => ask endpoint (.sessionSet (sessionSet change)) .ok
  | .getStats => ask endpoint .sessionStats fun stats => .ok (statsOf stats)
  | .freeSpace path => ask endpoint (.freeSpace path) .ok

end TorrentRemote.Rpc
