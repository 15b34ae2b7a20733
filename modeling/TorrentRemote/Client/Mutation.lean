import TorrentRemote.Client.Basic
import TorrentRemote.Text.Ascii
import TorrentRemote.Text.Base64

/-!
# Adding, modifying and deleting torrents

Each operation holds the lock from its first call to its last, so what it reads is still true when
it writes.  The cache is emptied after the calls that may change something, also if one of them
fails.
-/

namespace TorrentRemote.Client

/-- The change of a torrent's limits that an option asks for. -/
def limitChanges (option : TorrentOption) : Daemon.TorrentChange where
  downloadLimit := (option.downloadSpeedLimit.map Daemon.LimitChange.ofBytes).getD {}
  uploadLimit := (option.uploadSpeedLimit.map Daemon.LimitChange.ofBytes).getD {}

/-- Gives a torrent another stored name, unless it has that name already. -/
def rename (hash current new : String) : Operation Unit :=
  if current = new then pure () else perform (.renamePath hash current new)

/-- Changes a torrent's settings, unless the change is empty. -/
def applyChange (hash : String) (change : Daemon.TorrentChange) : Operation Unit :=
  if change.isEmpty then pure () else perform (.setTorrents [hash] change)

/-- Stops or starts a torrent. -/
def setPaused (hash : String) (paused : Bool) : Operation Unit :=
  if paused then perform (.stopTorrents [hash]) else perform (.startTorrents [hash])

/-! ### Adding -/

/-- The extra setting that says where new torrents are stored. -/
def downloadDirKey : String := "download_dir"

/-- What the daemon is told of a torrent to be added. -/
def newTorrent (client : Client) (content : List UInt8) (option : TorrentOption) :
    Daemon.NewTorrent where
  metainfo := Text.base64 content
  paused := option.paused.getD false
  downloadDir := client.config.extraString? downloadDirKey
  labels := Labels.build (option.category.getD "") (option.tags.getD [])

/-- Gives a torrent that was just added its name with side data and its limits. -/
def finishAdded (added : Daemon.TorrentRef) (option : TorrentOption) (sideData : SideData) :
    Operation Unit := do
  let name := option.name.getD (Name.decode added.name).1
  rename added.hash added.name (Name.encode name sideData)
  applyChange added.hash (limitChanges option)

/-- Adds the torrent of a torrent file. -/
def addTorrent (client : Client) (content : List UInt8) (option : TorrentOption)
    (sideData : SideData) : Operation Unit :=
  exclusively do
    match ← perform (.addTorrent (client.newTorrent content option)) with
    | .duplicate existing => throw (.duplicateTorrent existing.hash)
    | .added added => followedBy (finishAdded added option sideData) .invalidate

/-! ### Modifying -/

/-- The stored name that a modification asks for, if it asks for a name or side data. -/
def newName? (current : String) (option : TorrentOption) (sideData : Option SideData) :
    Option String :=
  if option.name.isSome || sideData.isSome then
    let parts := Name.decode current
    some (Name.encode (option.name.getD parts.1) (sideData.getD parts.2))
  else none

/-- The labels that a modification asks for, if it asks for a category or tags. -/
def newLabels? (current : List String) (option : TorrentOption) : Option (List String) :=
  if option.category.isSome || option.tags.isSome then
    some (Labels.build (option.category.getD (Labels.categoryOf current))
      (option.tags.getD (Labels.tagsOf current)))
  else none

/-- Makes a torrent what a modification asks for. -/
def applyModification (current : Daemon.TorrentRecord) (option : TorrentOption)
    (sideData : Option SideData) : Operation Unit := do
  match newName? current.name option sideData with
  | some name => rename current.hash current.name name
  | none => pure ()
  applyChange current.hash
    { limitChanges option with labels := newLabels? current.labels option }
  match option.paused with
  | some paused => setPaused current.hash paused
  | none => pure ()

/-- The torrent of the daemon with the given hash. -/
def fetchOne (hash : String) : Operation Daemon.TorrentRecord := do
  let records ← perform (.getTorrents (some [hash]))
  match List.find? (fun record => Text.equalIgnoringAsciiCase record.hash hash) records with
  | some record => pure record
  | none => throw (.torrentNotFound hash)

/-- Modifies a torrent: what is not asked for stays as it is. -/
def modifyTorrent (hash : String) (option : TorrentOption) (sideData : Option SideData) :
    Operation Unit :=
  exclusively do
    let current ← fetchOne hash
    followedBy (applyModification current option sideData) .invalidate

/-! ### Deleting -/

/-- Removes torrents one by one and collects the failures. -/
def removeEach (deleteFiles : Bool) : List String → Action (List (String × ClientError))
  | [] => pure []
  | hash :: hashes => do
    let result ← (perform (.removeTorrents [hash] deleteFiles)).run
    let failures ← removeEach deleteFiles hashes
    match result with
    | .ok _ => pure failures
    | .error error => pure ((hash, error) :: failures)

/-- Deletes torrents, and their files if asked to.  A failure does not keep the others from being
deleted. -/
def deleteTorrents (hashes : List String) (deleteFiles : Bool) : Operation Unit :=
  exclusively <| ExceptT.mk do
    let failures ← removeEach deleteFiles hashes
    if hashes ≠ [] then
      let _ ← Interaction.request Step.invalidate
    pure (batchOutcome failures)

end TorrentRemote.Client
