import TorrentRemote.Proofs.Client.Modification

/-!
# Added torrents are what was asked for

Adding a torrent takes up to three calls: the torrent is added with its labels, gets its name with
the side data, and gets its limits.  The name in the torrent file may hold side data itself, which
is dropped.  The cache is empty afterwards, so the next listing tells what the daemon has.

## Main definitions

* `Client.IsAdded` : what is listed of a torrent that was added.

## Main results

* `Client.stored_addTorrent` : what adding does to the torrents of the daemon.
* `Client.addTorrent_listed` : the next listing shows the torrent as it was asked for.
-/

namespace TorrentRemote

/-- A torrent is stopped exactly if its status is 0. -/
theorem Daemon.TorrentRecord.state_stopped_iff (record : Daemon.TorrentRecord) :
    (record.state = .completed ∨ record.state = .paused) ↔ record.status = 0 := by
  unfold state stateOf
  split
  · rename_i hzero
    cases record.isComplete <;> simp [hzero]
  · rename_i hnonzero
    cases record.isComplete <;> split_ifs <;> simp [hnonzero]

namespace Client

open Daemon

variable {σ : Type} {server : Server σ} {stored : σ → List TorrentRecord} {s s' : Cache × σ}

/-- What is listed of a torrent that was added under the display name `name`. -/
structure IsAdded (option : TorrentOption) (sideData : SideData) (name : String)
    (torrent : Torrent) : Prop where
  name : torrent.name = name
  sideData : torrent.sideData = sideData.nonzero
  category : torrent.category = option.category.getD ""
  tags : torrent.tags = (option.tags.getD []).filter (· != "")
  downloadSpeedLimit : LimitFollows option.downloadSpeedLimit (-1) torrent.downloadSpeedLimit
  uploadSpeedLimit : LimitFollows option.uploadSpeedLimit (-1) torrent.uploadSpeedLimit
  state : (torrent.state = .completed ∨ torrent.state = .paused) ↔ option.paused = some true

/-- A torrent that was just added becomes one with another name and with the limits asked for. -/
theorem stored_finishAdded (hserver : server.StoresAsAsked stored) {records : List TorrentRecord}
    {record : TorrentRecord}
    (hstored : stored s.2 = updateNamed [record.hash] (fun _ => record) records)
    {option : TorrentOption} {sideData : SideData}
    (hends : Ends server (finishAdded ⟨record.hash, record.name⟩ option sideData).run s (.ok ())
      s') :
    stored s'.2 = updateNamed [record.hash] (fun _ =>
      { name := Name.encode (option.name.getD (Name.decode record.name).1) sideData
        downloadLimit := (limitChanges option).downloadLimit.applyTo record.downloadLimit
        uploadLimit := (limitChanges option).uploadLimit.applyTo record.uploadLimit
        __ := record }) records := by
  obtain ⟨⟨⟩, s₁, hrename, hchange⟩ := ends_bind_ok_iff.1 hends
  have hself := record.hasHash_self
  have hnamed := stored_rename hserver hstored hself hrename
  exact stored_applyChange hserver hnamed hself hchange

/-- Adding a torrent empties the cache, and the daemon has one torrent more. -/
theorem stored_addTorrent (hserver : server.AddsAsAsked stored) {client : Client}
    {content : List UInt8} {option : TorrentOption} {sideData : SideData} {ref : TorrentRef} {d : σ}
    (hadded : (server (.addTorrent (client.newTorrent content option))).run s.2 =
      (.ok (.added ref), d))
    (hplain : Name.IsPlain (option.name.getD (Name.decode ref.name).1))
    (htags : ∀ tags ∈ option.tags, ∀ tag ∈ tags, Labels.IsTag tag) (hkeys : sideData.HasKeys)
    (hends : Ends server (client.addTorrent content option sideData).run s (.ok ()) s') :
    s'.1.torrents = none ∧ ∃ after : TorrentRecord, stored s'.2 = stored s.2 ++ [after] ∧
      after.hash = ref.hash ∧
      IsAdded option sideData (option.name.getD (Name.decode ref.name).1) after.toTorrent := by
  rw [addTorrent, ends_exclusively_iff] at hends
  obtain ⟨outcome, s₁, hcall, hends⟩ := ends_bind_ok_iff.1 hends
  obtain ⟨heq, rfl⟩ := Prod.mk.inj ((ends_perform_iff.1 hcall).2.symm.trans hadded)
  cases heq
  obtain ⟨s₂, hfinish, rfl⟩ := ends_followedBy_invalidate_iff.1 hends
  obtain ⟨hfresh, record, hnew, hhash, hname, hlabels, hstatus, hdown, hup⟩ := hserver.adds hadded
  obtain ⟨hash, name⟩ := ref
  cases hhash
  cases hname
  have hstored : stored s₁.2 = updateNamed [record.hash] (fun _ => record)
      (stored s.2 ++ [record]) := by
    rw [hnew, updateNamed_append_singleton hfresh]
  -- The torrent that was added is the only one with its hash, so the rest stays as it is.
  have hafter := stored_finishAdded hserver.toStoresAsAsked hstored hfinish
  rw [updateNamed_append_singleton hfresh] at hafter
  have hdecode := Name.decode_encode_of_isPlain hplain hkeys
  have hgiven : ∀ tag ∈ option.tags.getD [], Labels.IsTag tag := by
    cases hoption : option.tags with
    | none => simp
    | some tags => exact htags tags hoption
  have hunlimited : ∀ limit : SpeedLimit, limit.enabled = false → limit.toBytes = -1 := by
    rintro ⟨kib, enabled⟩ rfl
    rfl
  have hpaused : option.paused.getD false ↔ option.paused = some true := by
    cases option.paused <;> simp
  refine ⟨rfl, _, hafter, rfl, ?_⟩
  exact
    { name := congrArg Prod.fst hdecode
      sideData := congrArg Prod.snd hdecode
      category := by
        simpa [TorrentRecord.toTorrent, hlabels, newTorrent] using Labels.categoryOf_build _ hgiven
      tags := by
        simpa [TorrentRecord.toTorrent, hlabels, newTorrent] using Labels.tagsOf_build _ hgiven
      downloadSpeedLimit := hunlimited _ hdown ▸
        limitFollows_toBytes option.downloadSpeedLimit record.downloadLimit
      uploadSpeedLimit := hunlimited _ hup ▸
        limitFollows_toBytes option.uploadSpeedLimit record.uploadLimit
      state := (TorrentRecord.state_stopped_iff _).trans (hstatus.trans hpaused) }

/-- **An added torrent is listed as it was asked for.**  If the adding of a torrent succeeds at a
daemon that stores what it is asked to store, and the daemon then answers with its torrents, the
next listing returns the torrents from before and the new one: with the given name or else the one
that the file tells, with the given side data and none from the file, and with the given category,
tags and limits.  The name must be plain, the tags must not look like the label of a category, and
the side data must have keys of letters and digits. -/
theorem addTorrent_listed (server : Server σ) (stored : σ → List TorrentRecord)
    (hserver : server.AddsAsAsked stored) (s s' : Cache × σ) (client : Client)
    (content : List UInt8) (option : TorrentOption) (sideData : SideData) (ref : TorrentRef) (d : σ)
    (hadded : (server (.addTorrent (client.newTorrent content option))).run s.2 =
      (.ok (.added ref), d))
    (hplain : Name.IsPlain (option.name.getD (Name.decode ref.name).1))
    (htags : ∀ tags ∈ option.tags, ∀ tag ∈ tags, Labels.IsTag tag) (hkeys : sideData.HasKeys)
    (hends : Ends server (client.addTorrent content option sideData).run s (.ok ()) s')
    (records : List TorrentRecord) (d' : σ)
    (hlists : (server (.getTorrents none)).run s'.2 = (.ok records, d')) :
    ∃ (torrent : Torrent) (listed : List Torrent) (cache : Cache),
      Ends server (torrents none none).run s' (.ok listed) (cache, d') ∧
      listed.Perm ((stored s.2).map TorrentRecord.toTorrent ++ [torrent]) ∧
      torrent.infoHash = ref.hash ∧
      IsAdded option sideData (option.name.getD (Name.decode ref.name).1) torrent := by
  obtain ⟨hempty, after, hstored, hhash, hasked⟩ :=
    stored_addTorrent hserver hadded hplain htags hkeys hends
  have hperm := (hserver.listsAll hlists).1.map TorrentRecord.toTorrent
  rw [hstored, List.map_append] at hperm
  have hall (torrents : List Torrent) :
      torrents.filter (fun torrent => torrent.matchesFilter none none) = torrents :=
    List.filter_eq_self.2 fun _ _ => rfl
  refine ⟨after.toTorrent, _, _, ends_torrents_of_empty hempty hlists none none, ?_, hhash, hasked⟩
  rwa [hall]

/-- A category, two tags and a limit for a torrent that is not to start. -/
def pausedOption : TorrentOption where
  category := some "films"
  tags := some ["hd", ""]
  uploadSpeedLimit := some 1500
  paused := some true

/-- A client without settings. -/
def plainClient : Client := ⟨"home", ⟨"home", "transmission", "", "", "", false, []⟩⟩

/-- A torrent whose file tells a name with side data is listed without this side data, although the
cache held a list from before. -/
theorem addTorrent_listed_paused :
    ∃ s', Ends (exactServer fun _ => ⟨"AB01", "Film__meta.dl_5"⟩)
        (plainClient.addTorrent [1, 2, 3] pausedOption .empty).run
        (⟨some [songRecord.toTorrent], 0⟩, [songRecord]) (.ok ()) s' ∧
      ∃ (torrent : Torrent) (listed : List Torrent) (cache : Cache),
        Ends (exactServer fun _ => ⟨"AB01", "Film__meta.dl_5"⟩) (torrents none none).run s'
          (.ok listed) (cache, s'.2) ∧
        listed.Perm [songRecord.toTorrent, torrent] ∧ torrent.infoHash = "AB01" ∧
        IsAdded pausedOption .empty "Film" torrent := by
  obtain ⟨s', hends⟩ : ∃ s', Ends (exactServer fun _ => ⟨"AB01", "Film__meta.dl_5"⟩)
      (plainClient.addTorrent [1, 2, 3] pausedOption .empty).run
      (⟨some [songRecord.toTorrent], 0⟩, [songRecord]) (.ok ()) s' :=
    exists_ends_ok (by decide +kernel)
  have hname : (Name.decode "Film__meta.dl_5").1 = "Film" := by decide +kernel
  have hplain : Name.IsPlain "Film" := by decide
  have htags : ∀ tag ∈ ["hd", ""], Labels.IsTag tag := by decide
  obtain ⟨torrent, listed, cache, hlisted, hperm, hhash, hasked⟩ := addTorrent_listed
    (exactServer fun _ => ⟨"AB01", "Film__meta.dl_5"⟩) id (exactServer_addsAsAsked _) _ s'
    plainClient [1, 2, 3] pausedOption .empty ⟨"AB01", "Film__meta.dl_5"⟩ _ rfl
    (by simpa [pausedOption, hname] using hplain)
    (by simpa [pausedOption] using htags) (by simp [SideData.HasKeys, SideData.empty]) hends _ _ rfl
  exact ⟨s', hends, torrent, listed, cache, hlisted, hperm, hhash, hname ▸ hasked⟩

end Client

end TorrentRemote
