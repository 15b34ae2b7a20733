import TorrentRemote.Daemon.Call
import TorrentRemote.Error
import TorrentRemote.Text.Ascii
import TorrentRemote.Proofs.Torrent.SpeedLimit
import Mathlib.Data.List.Nodup

/-!
# Daemons that store what they are asked to store

What a daemon does to its torrents when it answers a call with success.  The calls name torrents by
their hashes, in which the case of letters does not matter.  A call that fails may do anything.

## Main definitions

* `Daemon.Server` : how a daemon answers calls.
* `Daemon.TorrentChange.applyTo` : a torrent after a change of its settings.
* `Daemon.Server.StoresAsAsked` : a daemon whose torrents become what is asked and no more.
* `Daemon.Server.RenamesAsAsked` : a daemon that does so as far as names are concerned.
* `Daemon.Server.AddsAsAsked` : one that stores what is asked and adds it, under a new hash.
* `Daemon.Server.StartsAs` : one that stores what is asked and tells the status of torrents that
  are started.
* `Daemon.Server.FailsWithoutEffect`, `Daemon.Server.Answers` : calls that fail change no torrents,
  or no call for torrents fails.

## Main results

* `Daemon.TorrentRecord.eq_of_hasHash` : a hash tells torrents apart.
* `Daemon.exactServer_storesAsAsked`, `Daemon.exactServer_addsAsAsked`,
  `Daemon.exactServer_startsAs`, `Daemon.exactServer_answers` : there are such daemons.
-/

namespace TorrentRemote.Daemon

/-- How a daemon with states of type `σ` answers calls. -/
abbrev Server (σ : Type) : Type := (call : Call) → StateM σ (Except ClientError call.Answer)

/-! ### Hashes -/

/-- Whether a torrent has a hash, up to the case of letters. -/
def TorrentRecord.hasHash (record : TorrentRecord) (hash : String) : Bool :=
  Text.equalIgnoringAsciiCase record.hash hash

/-- No two of the torrents have the same hash, up to the case of letters. -/
def DistinctHashes (records : List TorrentRecord) : Prop :=
  (records.map fun record => record.hash.toList.map Char.toLower).Nodup

instance (records : List TorrentRecord) : Decidable (DistinctHashes records) :=
  inferInstanceAs (Decidable (List.Nodup _))

theorem TorrentRecord.hasHash_iff {record : TorrentRecord} {hash : String} : record.hasHash hash ↔
    record.hash.toList.map Char.toLower = hash.toList.map Char.toLower :=
  beq_iff_eq

theorem TorrentRecord.hasHash_self (record : TorrentRecord) : record.hasHash record.hash :=
  hasHash_iff.2 rfl

/-- A hash tells torrents apart. -/
theorem TorrentRecord.eq_of_hasHash {records : List TorrentRecord} (h : DistinctHashes records)
    {a b : TorrentRecord} (ha : a ∈ records) (hb : b ∈ records) {hash : String}
    (hahash : a.hasHash hash) (hbhash : b.hasHash hash) : a = b :=
  List.inj_on_of_nodup_map h ha hb ((hasHash_iff.1 hahash).trans (hasHash_iff.1 hbhash).symm)

/-! ### Changes -/

/-- A limit after a change. -/
def LimitChange.applyTo (change : LimitChange) (limit : SpeedLimit) : SpeedLimit where
  kib := change.kib.getD limit.kib
  enabled := change.enabled.getD limit.enabled

/-- A torrent after a change of its settings. -/
def TorrentChange.applyTo (change : TorrentChange) (record : TorrentRecord) : TorrentRecord :=
  { record with
    labels := change.labels.getD record.labels
    downloadLimit := change.downloadLimit.applyTo record.downloadLimit
    uploadLimit := change.uploadLimit.applyTo record.uploadLimit }

theorem TorrentChange.applyTo_of_isEmpty {change : TorrentChange} (h : change.isEmpty)
    (record : TorrentRecord) : change.applyTo record = record := by
  have hempty : change = {} := of_decide_eq_true h
  rw [hempty]
  rfl

/-- A change that is made twice is made once. -/
theorem LimitChange.applyTo_applyTo (change : LimitChange) (limit : SpeedLimit) :
    change.applyTo (change.applyTo limit) = change.applyTo limit := by
  cases change with
  | mk kib enabled => cases kib <;> cases enabled <;> rfl

/-- A limit in bytes per second that is set replaces the limit before it. -/
theorem LimitChange.toBytes_applyTo_ofBytes (bytes : Int64) (limit : SpeedLimit) :
    ((ofBytes bytes).applyTo limit).toBytes = (SpeedLimit.ofBytes bytes).toBytes := by
  rw [ofBytes]
  generalize SpeedLimit.ofBytes bytes = new
  obtain ⟨kib, enabled⟩ := new
  cases enabled with
  | false => simp [applyTo, SpeedLimit.toBytes_of_disabled]
  | true => simp [applyTo]

/-- The torrents after those with one of the hashes have become other ones. -/
def updateNamed (hashes : List String) (f : TorrentRecord → TorrentRecord)
    (records : List TorrentRecord) : List TorrentRecord :=
  records.map fun record => if hashes.any record.hasHash then f record else record

/-- A change of torrents that have the hash is the last that counts. -/
theorem updateNamed_updateNamed {hash : String} {record : TorrentRecord}
    (h : record.hasHash hash) (f : TorrentRecord → TorrentRecord) (records : List TorrentRecord) :
    updateNamed [hash] f (updateNamed [hash] (fun _ => record) records) =
      updateNamed [hash] (fun _ => f record) records := by
  simp only [updateNamed, List.map_map]
  refine List.map_congr_left fun other _ => ?_
  by_cases hother : other.hasHash hash <;> simp [hother, h]

/-- Only the torrent with the hash becomes another one. -/
theorem updateNamed_eq_map {records : List TorrentRecord} (h : DistinctHashes records)
    {record : TorrentRecord} (hmem : record ∈ records) (new : TorrentRecord) :
    updateNamed [record.hash] (fun _ => new) records =
      records.map fun other => if other = record then new else other := by
  refine List.map_congr_left fun other hother => ?_
  have hiff : other.hasHash record.hash ↔ other = record :=
    ⟨fun hhash => TorrentRecord.eq_of_hasHash h hother hmem hhash record.hasHash_self,
      fun heq => heq ▸ other.hasHash_self⟩
  simp only [List.any_cons, List.any_nil, Bool.or_false, hiff]

theorem updateNamed_self {records : List TorrentRecord} (h : DistinctHashes records)
    {record : TorrentRecord} (hmem : record ∈ records) :
    updateNamed [record.hash] (fun _ => record) records = records := by
  rw [updateNamed_eq_map h hmem]
  refine (List.map_congr_left fun other _ => ?_).trans (List.map_id records)
  exact ite_eq_right_iff.2 Eq.symm

/-- A new torrent is the only one that becomes another one. -/
theorem updateNamed_append_singleton {records : List TorrentRecord} {record : TorrentRecord}
    (h : ∀ other ∈ records, ¬ other.hasHash record.hash) (new : TorrentRecord) :
    updateNamed [record.hash] (fun _ => new) (records ++ [record]) = records ++ [new] := by
  have hold : updateNamed [record.hash] (fun _ => new) records = records := by
    refine (List.map_congr_left fun other hother => ?_).trans (List.map_id records)
    simp [h other hother]
  rw [updateNamed, List.map_append, ← updateNamed, hold]
  simp [record.hasHash_self]

/-- A torrent after a change of its stored name from `path` to `name`. -/
def TorrentRecord.rename (path name : String) (record : TorrentRecord) : TorrentRecord :=
  if record.name = path then { record with name } else record

/-- Only the torrent with the hash gets another stored name. -/
theorem updateNamed_rename {records : List TorrentRecord} (h : DistinctHashes records)
    {record : TorrentRecord} (hmem : record ∈ records) (name : String) :
    updateNamed [record.hash] (.rename record.name name) records =
      updateNamed [record.hash] (fun _ => { record with name }) records := by
  conv_lhs => rw [← updateNamed_self h hmem]
  rw [updateNamed_updateNamed record.hasHash_self, TorrentRecord.rename, if_pos rfl]

/-- What a torrent is called: its hash and its stored name. -/
def TorrentRecord.title (record : TorrentRecord) : String × String := (record.hash, record.name)

theorem map_title_updateNamed {hashes : List String} {f : TorrentRecord → TorrentRecord}
    {records : List TorrentRecord} (h : ∀ record, (f record).title = record.title) :
    (updateNamed hashes f records).map TorrentRecord.title = records.map TorrentRecord.title := by
  rw [updateNamed, List.map_map]
  refine List.map_congr_left fun record _ => ?_
  rw [Function.comp_apply, apply_ite TorrentRecord.title, h, ite_self]

/-! ### Daemons -/

/-- A call that reads or changes torrents, and not the daemon as a whole. -/
def Call.isForTorrents : Call → Bool
  | .getSession | .setSession _ | .getStats | .freeSpace _ => false
  | _ => true

/-- A call that changes the settings or the status of torrents. -/
def Call.isForSettings : Call → Bool
  | .setTorrents _ _ | .startTorrents _ | .stopTorrents _ => true
  | _ => false

namespace Server

variable {σ : Type}

/-- A daemon whose torrents, which `stored` tells, become what is asked and no more. -/
structure StoresAsAsked (server : Server σ) (stored : σ → List TorrentRecord) : Prop where
  /-- The named torrents are listed, and perhaps others. -/
  listsNamed {d d' : σ} {hashes : List String} {records : List TorrentRecord} :
    (server (.getTorrents (some hashes))).run d = (.ok records, d') →
      records ⊆ stored d ∧ (∀ record ∈ stored d, hashes.any record.hasHash → record ∈ records) ∧
        stored d' = stored d
  renames {d d' : σ} {hash path name : String} :
    (server (.renamePath hash path name)).run d = (.ok (), d') →
      stored d' = updateNamed [hash] (.rename path name) (stored d)
  changes {d d' : σ} {hashes : List String} {change : TorrentChange} :
    (server (.setTorrents hashes change)).run d = (.ok (), d') →
      stored d' = updateNamed hashes change.applyTo (stored d)
  /-- A torrent that is started gets a status other than that of stopped ones. -/
  starts {d d' : σ} {hashes : List String} :
    (server (.startTorrents hashes)).run d = (.ok (), d') →
      ∃ status : TorrentRecord → Int64, (∀ record, status record ≠ 0) ∧ stored d' =
        updateNamed hashes (fun record => { record with status := status record }) (stored d)
  stops {d d' : σ} {hashes : List String} :
    (server (.stopTorrents hashes)).run d = (.ok (), d') →
      stored d' = updateNamed hashes (fun record => { record with status := 0 }) (stored d)

/-- A daemon that gives torrents the stored names that are asked for, and no others.  What else its
calls do to the torrents is left open. -/
structure RenamesAsAsked (server : Server σ) (stored : σ → List TorrentRecord) : Prop where
  lists {d d' : σ} {hashes : List String} {records : List TorrentRecord} :
    (server (.getTorrents (some hashes))).run d = (.ok records, d') →
      records ⊆ stored d ∧ stored d' = stored d
  renames {d d' : σ} {hash path name : String} :
    (server (.renamePath hash path name)).run d = (.ok (), d') →
      (stored d').map TorrentRecord.title =
        (updateNamed [hash] (.rename path name) (stored d)).map TorrentRecord.title
  keepsTitles {d d' : σ} {call : Call} {answer : call.Answer} : call.isForSettings →
    (server call).run d = (.ok answer, d') →
      (stored d').map TorrentRecord.title = (stored d).map TorrentRecord.title

theorem StoresAsAsked.renamesAsAsked {server : Server σ} {stored : σ → List TorrentRecord}
    (h : server.StoresAsAsked stored) : server.RenamesAsAsked stored where
  lists hcall := by
    obtain ⟨hsubset, -, hsame⟩ := h.listsNamed hcall
    exact ⟨hsubset, hsame⟩
  renames hcall := by rw [h.renames hcall]
  keepsTitles {_ _ call _} hsettings hcall := by
    cases call with
    | setTorrents =>
      rw [h.changes hcall]
      exact map_title_updateNamed fun _ => rfl
    | startTorrents =>
      obtain ⟨status, -, hstarted⟩ := h.starts hcall
      rw [hstarted]
      exact map_title_updateNamed fun _ => rfl
    | stopTorrents =>
      rw [h.stops hcall]
      exact map_title_updateNamed fun _ => rfl
    | _ => cases hsettings

/-- A daemon that stores what is asked and adds what is asked: under a new hash, with a name that
the file tells, and without speed limits. -/
structure AddsAsAsked (server : Server σ) (stored : σ → List TorrentRecord) : Prop
    extends StoresAsAsked server stored where
  /-- All torrents are listed, in any order. -/
  listsAll {d d' : σ} {records : List TorrentRecord} :
    (server (.getTorrents none)).run d = (.ok records, d') →
      records.Perm (stored d) ∧ stored d' = stored d
  adds {d d' : σ} {new : NewTorrent} {ref : TorrentRef} :
    (server (.addTorrent new)).run d = (.ok (.added ref), d') →
      (∀ record ∈ stored d, ¬ record.hasHash ref.hash) ∧
        ∃ record, stored d' = stored d ++ [record] ∧ record.hash = ref.hash ∧
          record.name = ref.name ∧ record.labels = new.labels ∧
          (record.status = 0 ↔ new.paused) ∧ record.downloadLimit.enabled = false ∧
          record.uploadLimit.enabled = false

/-- A daemon that stores what is asked and whose torrents get the status that `running` tells when
they are started.  A torrent that is started a second time stays what it is. -/
structure StartsAs (server : Server σ) (stored : σ → List TorrentRecord)
    (running : TorrentRecord → Int64) : Prop extends StoresAsAsked server stored where
  startsAs {d d' : σ} {hashes : List String} :
    (server (.startTorrents hashes)).run d = (.ok (), d') → stored d' =
      updateNamed hashes (fun record => { record with status := running record }) (stored d)
  running_again (record : TorrentRecord) :
    running { record with status := running record } = running record

/-- Calls for torrents that fail leave the torrents as they are. -/
def FailsWithoutEffect (server : Server σ) (stored : σ → List TorrentRecord) : Prop :=
  ∀ ⦃call : Call⦄, call.isForTorrents → ∀ ⦃d d' : σ⦄ ⦃error : ClientError⦄,
    (server call).run d = (.error error, d') → stored d' = stored d

/-- Calls for torrents never fail. -/
def Answers (server : Server σ) : Prop :=
  ∀ call : Call, call.isForTorrents → ∀ d, ∃ answer d', (server call).run d = (.ok answer, d')

theorem Answers.failsWithoutEffect {server : Server σ} (h : server.Answers)
    (stored : σ → List TorrentRecord) : server.FailsWithoutEffect stored := by
  intro call hcall d d' error herror
  obtain ⟨answer, d'', hok⟩ := h call hcall d
  cases hok.symm.trans herror

end Server

/-- The torrent that is made of a torrent file with the given hash and name. -/
def NewTorrent.toRecord (new : NewTorrent) (ref : TorrentRef) : TorrentRecord where
  hash := ref.hash
  name := ref.name
  status := if new.paused then 0 else 4
  addedDate := 0
  doneDate := 0
  labels := new.labels
  sizeWhenDone := 0
  leftUntilDone := 0
  downloadedEver := 0
  uploadedEver := 0
  rateDownload := 0
  rateUpload := 0
  downloadLimit := ⟨0, false⟩
  uploadLimit := ⟨0, false⟩
  trackers := []

/-- A daemon that is nothing but its torrents.  What hash and name a torrent file tells is left to
`read`. -/
def exactServer (read : String → TorrentRef) : Server (List TorrentRecord)
  | .getTorrents none => fun stored => (.ok stored, stored)
  | .getTorrents (some hashes) => fun stored =>
    (.ok (stored.filter fun record => hashes.any record.hasHash), stored)
  | .addTorrent new => fun stored =>
    if stored.any fun record => record.hasHash (read new.metainfo).hash then
      (.ok (.duplicate (read new.metainfo)), stored)
    else (.ok (.added (read new.metainfo)), stored ++ [new.toRecord (read new.metainfo)])
  | .setTorrents hashes change => fun stored =>
    (.ok (), updateNamed hashes change.applyTo stored)
  | .renamePath hash path name => fun stored =>
    (.ok (), updateNamed [hash] (.rename path name) stored)
  | .startTorrents hashes => fun stored =>
    (.ok (), updateNamed hashes (fun record => { record with status := 4 }) stored)
  | .stopTorrents hashes => fun stored =>
    (.ok (), updateNamed hashes (fun record => { record with status := 0 }) stored)
  | .removeTorrents hashes _ => fun stored =>
    (.ok (), stored.filter fun record => !hashes.any record.hasHash)
  | .getSession | .setSession _ | .getStats | .freeSpace _ => fun stored =>
    (.error (.server "not supported"), stored)

theorem exactServer_storesAsAsked (read : String → TorrentRef) :
    (exactServer read).StoresAsAsked id where
  listsNamed h := by
    cases h
    refine ⟨List.filter_subset_self _, fun record hmem hnamed => ?_, rfl⟩
    exact List.mem_filter.2 ⟨hmem, hnamed⟩
  renames h := by
    cases h
    rfl
  changes h := by
    cases h
    rfl
  starts h := by
    cases h
    exact ⟨fun _ => 4, fun _ => (by decide : (4 : Int64) ≠ 0), rfl⟩
  stops h := by
    cases h
    rfl

theorem exactServer_startsAs (read : String → TorrentRef) :
    (exactServer read).StartsAs id fun _ => 4 where
  toStoresAsAsked := exactServer_storesAsAsked read
  startsAs h := by
    cases h
    rfl
  running_again _ := rfl

theorem exactServer_answers (read : String → TorrentRef) : (exactServer read).Answers := by
  intro call hcall d
  cases call with
  | getTorrents hashes => cases hashes <;> exact ⟨_, _, rfl⟩
  | addTorrent new =>
    by_cases hthere : d.any fun record => record.hasHash (read new.metainfo).hash
    · exact ⟨_, _, if_pos hthere⟩
    · exact ⟨_, _, if_neg hthere⟩
  | getSession | setSession | getStats | freeSpace => cases hcall
  | _ => exact ⟨_, _, rfl⟩

theorem exactServer_addsAsAsked (read : String → TorrentRef) :
    (exactServer read).AddsAsAsked id where
  toStoresAsAsked := exactServer_storesAsAsked read
  listsAll h := by
    cases h
    exact ⟨.refl _, rfl⟩
  adds {d _ new _} h := by
    by_cases hthere : d.any fun record => record.hasHash (read new.metainfo).hash
    · simp only [exactServer, StateT.run, hthere, if_true] at h
      cases h
    · simp only [exactServer, StateT.run, if_neg hthere] at h
      cases h
      refine ⟨by simpa using hthere, _, rfl, rfl, rfl, rfl, ?_, rfl, rfl⟩
      cases hpaused : new.paused <;> simp [NewTorrent.toRecord, hpaused]

end TorrentRemote.Daemon
