import TorrentRemote.Client.Mutation
import TorrentRemote.Daemon.Conversion
import TorrentRemote.Proofs.Client.Protocol
import TorrentRemote.Proofs.Client.Sequential
import TorrentRemote.Proofs.Torrent.Labels
import TorrentRemote.Proofs.Torrent.Name

/-!
# Modifications are partial updates

A modification reads the torrent, and writes what is asked for together with what shares its place
at the daemon: the name with the side data, and the category with the tags.  What was not asked for
is read from the torrent and so stays what it was.

## Main definitions

* `Client.IsModified` : what a torrent becomes by a modification.

## Main results

* `Client.stored_rename`, `Client.stored_applyChange`, `Client.stored_setPaused` : what the parts of
  a modification do to the torrents of the daemon.
* `Client.exists_ends_modifyTorrent` : a modification succeeds if no call fails.
* `Client.modifyTorrent_isModified` : a modification does what is asked and no more.
-/

namespace TorrentRemote.Client

open Daemon

variable {σ : Type} {server : Server σ} {stored : σ → List TorrentRecord} {s s' : Cache × σ}
  {records : List TorrentRecord} {record : TorrentRecord} {hash : String}

/-! ### Writing -/

/-- Another stored name takes the place of the one before it. -/
theorem stored_rename (hserver : server.StoresAsAsked stored)
    (hstored : stored s.2 = updateNamed [hash] (fun _ => record) records)
    (hhash : record.hasHash hash) {name : String}
    (hends : Ends server (rename hash record.name name).run s (.ok ()) s') :
    stored s'.2 = updateNamed [hash] (fun _ => { record with name }) records := by
  by_cases hsame : record.name = name
  · rw [rename, if_pos hsame, ends_pure_iff] at hends
    rw [hends.2, hstored, ← hsame]
  · rw [rename, if_neg hsame, ends_perform_iff] at hends
    rw [hserver.renames hends.2, hstored, updateNamed_updateNamed hhash, TorrentRecord.rename,
      if_pos rfl]

/-- Changed settings take the place of those before them. -/
theorem stored_applyChange (hserver : server.StoresAsAsked stored)
    (hstored : stored s.2 = updateNamed [hash] (fun _ => record) records)
    (hhash : record.hasHash hash) {change : TorrentChange}
    (hends : Ends server (applyChange hash change).run s (.ok ()) s') :
    stored s'.2 = updateNamed [hash] (fun _ => change.applyTo record) records := by
  by_cases hempty : change.isEmpty
  · rw [applyChange, if_pos hempty, ends_pure_iff] at hends
    rw [hends.2, hstored, change.applyTo_of_isEmpty hempty]
  · rw [applyChange, if_neg hempty, ends_perform_iff] at hends
    rw [hserver.changes hends.2, hstored, updateNamed_updateNamed hhash]

/-- A status takes the place of the one before it, and it is that of stopped torrents if the torrent
was to be paused. -/
theorem stored_setPaused (hserver : server.StoresAsAsked stored)
    (hstored : stored s.2 = updateNamed [hash] (fun _ => record) records)
    (hhash : record.hasHash hash) {paused : Bool}
    (hends : Ends server (setPaused hash paused).run s (.ok ()) s') :
    ∃ status, (status = 0 ↔ paused) ∧
      stored s'.2 = updateNamed [hash] (fun _ => { record with status }) records := by
  cases paused with
  | true =>
    have hcall := (ends_perform_iff.1 hends).2
    refine ⟨0, by simp, ?_⟩
    rw [hserver.stops hcall, hstored, updateNamed_updateNamed hhash]
  | false =>
    have hcall := (ends_perform_iff.1 hends).2
    obtain ⟨status, hne, hstarted⟩ := hserver.starts hcall
    refine ⟨status record, by simp [hne], ?_⟩
    rw [hstarted, hstored, updateNamed_updateNamed hhash]

/-! ### Reading -/

/-- The torrent that is read is the one with the hash. -/
theorem eq_of_fetchOne_of_renames (hserver : server.RenamesAsAsked stored)
    (hdistinct : DistinctHashes (stored s.2)) (hmem : record ∈ stored s.2)
    (hhash : record.hasHash hash) {current : TorrentRecord}
    (hends : Ends server (fetchOne hash).run s (.ok current) s') :
    current = record ∧ stored s'.2 = stored s.2 := by
  obtain ⟨listed, s₁, hcall, hfound⟩ := ends_bind_ok_iff.1 hends
  obtain ⟨hsubset, hsame⟩ := hserver.lists (ends_perform_iff.1 hcall).2
  cases hfind : List.find? (fun record => Text.equalIgnoringAsciiCase record.hash hash) listed with
  | none =>
    rw [hfind] at hfound
    cases (ends_throw_iff.1 hfound).1
  | some found =>
    rw [hfind] at hfound
    obtain ⟨heq, rfl⟩ := ends_pure_iff.1 hfound
    cases heq
    have hlisted := List.mem_of_find?_eq_some hfind
    have hcurrent := List.find?_some hfind
    exact ⟨TorrentRecord.eq_of_hasHash hdistinct (hsubset hlisted) hmem hcurrent hhash, hsame⟩

theorem eq_of_fetchOne (hserver : server.StoresAsAsked stored)
    (hdistinct : DistinctHashes (stored s.2)) (hmem : record ∈ stored s.2)
    (hhash : record.hasHash hash) {current : TorrentRecord}
    (hends : Ends server (fetchOne hash).run s (.ok current) s') :
    current = record ∧ stored s'.2 = stored s.2 :=
  eq_of_fetchOne_of_renames hserver.renamesAsAsked hdistinct hmem hhash hends

/-! ### Success -/

theorem exists_ends_perform (hanswers : server.Answers) (call : Call) (hcall : call.isForTorrents)
    (s : Cache × σ) : ∃ answer s', Ends server (perform call).run s (.ok answer) s' := by
  obtain ⟨answer, d, hanswer⟩ := hanswers call hcall s.2
  exact ⟨answer, (s.1, d), ends_perform_iff.2 ⟨rfl, hanswer⟩⟩

theorem exists_ends_pure {α : Type} (value : α) (s : Cache × σ) :
    ∃ s', Ends server (pure value : Operation α).run s (.ok value) s' :=
  ⟨s, ends_pure_iff.2 ⟨rfl, rfl⟩⟩

/-- Operations succeed one after another if the second succeeds wherever the first may end. -/
theorem exists_ends_bind {α β : Type} {first : Operation α} {second : α → Operation β} {result : β}
    {s : Cache × σ} (value : α) (hfirst : ∃ s₁, Ends server first.run s (.ok value) s₁)
    (hsecond : ∀ s₁, ∃ s₂, Ends server (second value).run s₁ (.ok result) s₂) :
    ∃ s₂, Ends server (first >>= second).run s (.ok result) s₂ := by
  obtain ⟨s₁, hends⟩ := hfirst
  obtain ⟨s₂, hends'⟩ := hsecond s₁
  exact ⟨s₂, ends_bind_ok_iff.2 ⟨value, s₁, hends, hends'⟩⟩

theorem exists_ends_rename (hanswers : server.Answers) (hash current new : String)
    (s : Cache × σ) : ∃ s', Ends server (rename hash current new).run s (.ok ()) s' := by
  by_cases hsame : current = new
  · rw [rename, if_pos hsame]
    exact exists_ends_pure () s
  · rw [rename, if_neg hsame]
    obtain ⟨⟨⟩, hends⟩ := exists_ends_perform hanswers (.renamePath hash current new) rfl s
    exact hends

theorem exists_ends_applyChange (hanswers : server.Answers) (hash : String)
    (change : TorrentChange) (s : Cache × σ) :
    ∃ s', Ends server (applyChange hash change).run s (.ok ()) s' := by
  by_cases hempty : change.isEmpty
  · rw [applyChange, if_pos hempty]
    exact exists_ends_pure () s
  · rw [applyChange, if_neg hempty]
    obtain ⟨⟨⟩, hends⟩ := exists_ends_perform hanswers (.setTorrents [hash] change) rfl s
    exact hends

theorem exists_ends_setPaused (hanswers : server.Answers) (hash : String) (paused : Bool)
    (s : Cache × σ) : ∃ s', Ends server (setPaused hash paused).run s (.ok ()) s' := by
  cases paused with
  | true =>
    obtain ⟨⟨⟩, hends⟩ := exists_ends_perform hanswers (.stopTorrents [hash]) rfl s
    exact hends
  | false =>
    obtain ⟨⟨⟩, hends⟩ := exists_ends_perform hanswers (.startTorrents [hash]) rfl s
    exact hends

/-- A torrent that the daemon has is found. -/
theorem exists_ends_fetchOne (hserver : server.StoresAsAsked stored) (hanswers : server.Answers)
    (hdistinct : DistinctHashes (stored s.2)) (hmem : record ∈ stored s.2)
    (hhash : record.hasHash hash) :
    ∃ s', Ends server (fetchOne hash).run s (.ok record) s' ∧ stored s'.2 = stored s.2 := by
  obtain ⟨records, s', hcall⟩ := exists_ends_perform hanswers (.getTorrents (some [hash])) rfl s
  obtain ⟨-, hnamed, -⟩ := hserver.listsNamed (ends_perform_iff.1 hcall).2
  have hlisted : record ∈ records := hnamed record hmem (by simpa using hhash)
  obtain ⟨current, hfind⟩ : ∃ current,
      List.find? (fun record => Text.equalIgnoringAsciiCase record.hash hash) records =
        some current := by
    rw [← Option.isSome_iff_exists, List.find?_isSome]
    exact ⟨record, hlisted, hhash⟩
  have hends : Ends server (fetchOne hash).run s (.ok current) s' := by
    refine ends_bind_ok_iff.2 ⟨records, s', hcall, ?_⟩
    rw [hfind]
    exact ends_pure_iff.2 ⟨rfl, rfl⟩
  obtain ⟨rfl, hsame⟩ := eq_of_fetchOne hserver hdistinct hmem hhash hends
  exact ⟨s', hends, hsame⟩

/-- The parts of a modification succeed one after another. -/
theorem exists_ends_applyModification (hanswers : server.Answers) (record : TorrentRecord)
    (option : TorrentOption) (sideData : Option SideData) (s : Cache × σ) :
    ∃ s', Ends server (applyModification record option sideData).run s (.ok ()) s' := by
  rw [applyModification_eq]
  refine exists_ends_bind () ?_ fun s₁ => exists_ends_bind () ?_ fun s₂ => ?_
  · cases newName? record.name option sideData with
    | none => exact exists_ends_pure () s
    | some name => exact exists_ends_rename hanswers record.hash record.name name s
  · exact exists_ends_applyChange hanswers record.hash _ s₁
  · cases option.paused with
    | none => exact exists_ends_pure () s₂
    | some paused => exact exists_ends_setPaused hanswers record.hash paused s₂

/-- A modification of a torrent that the daemon has succeeds if no call fails. -/
theorem exists_ends_modifyTorrent (hserver : server.StoresAsAsked stored)
    (hanswers : server.Answers) (hdistinct : DistinctHashes (stored s.2))
    (hmem : record ∈ stored s.2) (hhash : record.hasHash hash) (option : TorrentOption)
    (sideData : Option SideData) :
    ∃ s', Ends server (modifyTorrent hash option sideData).run s (.ok ()) s' := by
  obtain ⟨s₁, hfetch, -⟩ := exists_ends_fetchOne hserver hanswers hdistinct hmem hhash
  obtain ⟨s₂, hmodify⟩ := exists_ends_applyModification hanswers record option sideData s₁
  refine ⟨(s₂.1.invalidate, s₂.2), ?_⟩
  rw [modifyTorrent, ends_exclusively_iff]
  exact ends_bind_ok_iff.2 ⟨record, s₁, hfetch,
    ends_followedBy_invalidate_iff.2 ⟨s₂, hmodify, rfl⟩⟩

/-! ### What is asked for -/

/-- The new stored name, or the old one if neither a name nor side data is given, holds what is
given and for the rest what the old one held. -/
theorem decode_newName? (current : String) {option : TorrentOption} {sideData : Option SideData}
    (hplain : Name.IsPlain (option.name.getD (Name.decode current).1))
    (hkeys : ∀ data ∈ sideData, data.HasKeys) :
    Name.decode ((newName? current option sideData).getD current) =
      (option.name.getD (Name.decode current).1,
        (sideData.map SideData.nonzero).getD (Name.decode current).2) := by
  by_cases hasked : option.name.isSome || sideData.isSome
  · rw [newName?, if_pos hasked, Option.getD_some]
    cases sideData with
    | none =>
      rw [Option.getD_none, Option.map_none, Option.getD_none,
        Name.decode_encode_of_isPlain hplain (Name.hasKeys_decode current), Name.nonzero_decode]
    | some data =>
      rw [Option.getD_some, Option.map_some, Option.getD_some,
        Name.decode_encode_of_isPlain hplain (hkeys data rfl)]
  · obtain ⟨hname, hdata⟩ : option.name = none ∧ sideData = none := by simpa using hasked
    rw [newName?, if_neg hasked, hname, hdata]
    rfl

/-- The tags that a modification leaves.  Whenever the labels are written, empty tags are left
out. -/
def tagsAfter (option : TorrentOption) (tags : List String) : List String :=
  match option.tags, option.category with
  | some given, _ => given.filter (· != "")
  | none, some _ => tags.filter (· != "")
  | none, none => tags

/-- The new labels, or the old ones if neither a category nor tags are given, hold what is given and
for the rest what the old ones held. -/
theorem split_newLabels? (current : List String) {option : TorrentOption}
    (htags : ∀ tags ∈ option.tags, ∀ tag ∈ tags, Labels.IsTag tag) :
    Labels.split ((newLabels? current option).getD current) =
      (option.category.getD (Labels.categoryOf current),
        tagsAfter option (Labels.tagsOf current)) := by
  by_cases hasked : option.category.isSome || option.tags.isSome
  · have hnew : ∀ tag ∈ option.tags.getD (Labels.tagsOf current), Labels.IsTag tag := by
      cases hgiven : option.tags with
      | none => exact fun tag htag => (Labels.mem_tagsOf.1 htag).2
      | some tags => exact htags tags hgiven
    rw [newLabels?, if_pos hasked, Option.getD_some, Labels.split, Labels.categoryOf_build _ hnew,
      Labels.tagsOf_build _ hnew]
    congr 1
    cases hgiven : option.tags with
    | some tags => simp [tagsAfter, hgiven]
    | none =>
      obtain ⟨category, hcategory⟩ : ∃ category, option.category = some category := by
        simpa [hgiven, Option.isSome_iff_exists] using hasked
      simp [tagsAfter, hgiven, hcategory]
  · obtain ⟨hcategory, hgiven⟩ : option.category = none ∧ option.tags = none := by
      simpa using hasked
    rw [newLabels?, if_neg hasked, Option.getD_none, Labels.split, tagsAfter, hcategory, hgiven]
    rfl

/-- What becomes of a limit in bytes per second if another is requested, or none is. -/
def LimitFollows (requested : Option Int64) (before after : Int64) : Prop :=
  match requested with
  | none => after = before
  | some bytes => SpeedLimit.IsRoundedUp bytes after

theorem limitFollows_toBytes (requested : Option Int64) (limit : SpeedLimit) :
    LimitFollows requested limit.toBytes
      (((requested.map LimitChange.ofBytes).getD {}).applyTo limit).toBytes := by
  cases requested with
  | none => rfl
  | some bytes =>
    rw [Option.map_some, Option.getD_some, LimitChange.toBytes_applyTo_ofBytes]
    exact SpeedLimit.isRoundedUp_toBytes_ofBytes bytes

/-! ### Modifying -/

/-- What a torrent of the daemon becomes by a modification, as every client then reports it. -/
structure IsModified (option : TorrentOption) (sideData : Option SideData)
    (before after : TorrentRecord) : Prop where
  name : after.toTorrent.name = option.name.getD before.toTorrent.name
  sideData : after.toTorrent.sideData =
    (sideData.map SideData.nonzero).getD before.toTorrent.sideData
  category : after.toTorrent.category = option.category.getD before.toTorrent.category
  tags : after.toTorrent.tags = tagsAfter option before.toTorrent.tags
  downloadSpeedLimit : LimitFollows option.downloadSpeedLimit before.toTorrent.downloadSpeedLimit
    after.toTorrent.downloadSpeedLimit
  uploadSpeedLimit : LimitFollows option.uploadSpeedLimit before.toTorrent.uploadSpeedLimit
    after.toTorrent.uploadSpeedLimit
  /-- The status 0 is that of stopped torrents. -/
  status : match option.paused with
    | none => after.status = before.status
    | some paused => after.status = 0 ↔ paused
  /-- All else stays as it is. -/
  others : after = { before with
    name := after.name
    labels := after.labels
    downloadLimit := after.downloadLimit
    uploadLimit := after.uploadLimit
    status := after.status }

/-- The parts of a modification that succeeds, one after another. -/
theorem stored_applyModification (hserver : server.StoresAsAsked stored)
    (hstored : stored s.2 = updateNamed [record.hash] (fun _ => record) records)
    {option : TorrentOption} {sideData : Option SideData}
    (hends : Ends server (applyModification record option sideData).run s (.ok ()) s') :
    ∃ status, (match option.paused with
        | none => status = record.status
        | some paused => status = 0 ↔ paused) ∧
      stored s'.2 = updateNamed [record.hash] (fun _ =>
        { name := (newName? record.name option sideData).getD record.name
          labels := (newLabels? record.labels option).getD record.labels
          downloadLimit := (limitChanges option).downloadLimit.applyTo record.downloadLimit
          uploadLimit := (limitChanges option).uploadLimit.applyTo record.uploadLimit
          status, __ := record }) records := by
  rw [applyModification_eq] at hends
  obtain ⟨⟨⟩, s₁, hrename, hends⟩ := ends_bind_ok_iff.1 hends
  obtain ⟨⟨⟩, s₂, hchange, hpause⟩ := ends_bind_ok_iff.1 hends
  have hself := record.hasHash_self
  -- Each part finds the torrent as the part before it has left it.
  have hnamed : stored s₁.2 = updateNamed [record.hash] (fun _ =>
      { record with name := (newName? record.name option sideData).getD record.name }) records := by
    cases hname : newName? record.name option sideData with
    | some name =>
      rw [hname] at hrename
      exact stored_rename hserver hstored hself hrename
    | none =>
      rw [hname] at hrename
      rw [(ends_pure_iff.1 hrename).2, hstored]
      rfl
  have hchanged := stored_applyChange hserver hnamed hself hchange
  cases hpaused : option.paused with
  | none =>
    rw [hpaused] at hpause
    refine ⟨record.status, rfl, ?_⟩
    rw [(ends_pure_iff.1 hpause).2, hchanged]
    rfl
  | some paused =>
    rw [hpaused] at hpause
    exact stored_setPaused hserver hchanged hself hpause

/-- **A modification is a partial update.**  If the modification of a torrent succeeds at a daemon
that stores what it is asked to store, the torrent has become what was asked for, what was not asked
for is what it was, and the other torrents are what they were.  The torrent may be named by its hash
in any case.  The display name and a given name must be plain, given tags must not look like the
label of a category, and given side data must have keys of letters and digits. -/
theorem modifyTorrent_isModified (server : Server σ) (stored : σ → List TorrentRecord)
    (hserver : server.StoresAsAsked stored) (s s' : Cache × σ) (hash : String)
    (option : TorrentOption) (sideData : Option SideData) (record : TorrentRecord)
    (hdistinct : DistinctHashes (stored s.2)) (hmem : record ∈ stored s.2)
    (hhash : record.hasHash hash) (hplain : Name.IsPlain record.toTorrent.name)
    (hname : ∀ name ∈ option.name, Name.IsPlain name)
    (htags : ∀ tags ∈ option.tags, ∀ tag ∈ tags, Labels.IsTag tag)
    (hkeys : ∀ data ∈ sideData, data.HasKeys)
    (hends : Ends server (modifyTorrent hash option sideData).run s (.ok ()) s') :
    ∃ after, IsModified option sideData record after ∧
      stored s'.2 = (stored s.2).map fun other => if other = record then after else other := by
  rw [modifyTorrent, ends_exclusively_iff] at hends
  obtain ⟨current, s₁, hfetch, hends⟩ := ends_bind_ok_iff.1 hends
  obtain ⟨rfl, hsame⟩ := eq_of_fetchOne hserver hdistinct hmem hhash hfetch
  obtain ⟨s₂, hmodify, rfl⟩ := ends_followedBy_invalidate_iff.1 hends
  have hstored : stored s₁.2 = updateNamed [current.hash] (fun _ => current) (stored s.2) := by
    rw [hsame, updateNamed_self hdistinct hmem]
  obtain ⟨status, hstatus, hafter⟩ := stored_applyModification hserver hstored hmodify
  rw [updateNamed_eq_map hdistinct hmem] at hafter
  -- The name that is written is plain, whether it is given or read.
  have hbase : Name.IsPlain (option.name.getD (Name.decode current.name).1) := by
    cases hgiven : option.name with
    | none => exact hplain
    | some name => exact hname name hgiven
  have hdecode := decode_newName? current.name hbase hkeys
  have hsplit := split_newLabels? current.labels htags
  refine ⟨_, ?_, hafter⟩
  exact
    { name := congrArg Prod.fst hdecode
      sideData := congrArg Prod.snd hdecode
      category := congrArg Prod.fst hsplit
      tags := congrArg Prod.snd hsplit
      downloadSpeedLimit := limitFollows_toBytes option.downloadSpeedLimit current.downloadLimit
      uploadSpeedLimit := limitFollows_toBytes option.uploadSpeedLimit current.uploadLimit
      status := hstatus
      others := rfl }

/-- A torrent with side data, a category and a tag. -/
def filmRecord : TorrentRecord :=
  ⟨"AB01", "Film__meta.dl_5", 4, 0, 0, ["category:films", "hd"], 0, 0, 0, 0, 0, 0, ⟨7, true⟩,
    ⟨0, false⟩, []⟩

/-- Another torrent. -/
def songRecord : TorrentRecord := { filmRecord with hash := "CD02", name := "Song" }

/-- A new name, new tags, a new limit and a pause. -/
def filmOption : TorrentOption where
  name := some "Movie"
  tags := some ["sd", ""]
  downloadSpeedLimit := some 1500
  paused := some true

/-- A torrent that is named by its hash in lower case keeps its side data and its category, and the
other torrent keeps everything. -/
theorem modifyTorrent_filmRecord :
    ∃ s', Ends (exactServer fun _ => ⟨"", ""⟩) (modifyTorrent "ab01" filmOption none).run
        ({}, [filmRecord, songRecord]) (.ok ()) s' ∧
      ∃ after, IsModified filmOption none filmRecord after ∧ s'.2 = [after, songRecord] := by
  obtain ⟨s', hends⟩ : ∃ s', Ends (exactServer fun _ => ⟨"", ""⟩)
      (modifyTorrent "ab01" filmOption none).run ({}, [filmRecord, songRecord]) (.ok ()) s' :=
    exists_ends_ok (by decide +kernel)
  have hmovie : Name.IsPlain "Movie" := by decide
  have htags : ∀ tag ∈ ["sd", ""], Labels.IsTag tag := by decide
  obtain ⟨after, hmodified, hstored⟩ := modifyTorrent_isModified _ id
    (exactServer_storesAsAsked fun _ => ⟨"", ""⟩) _ s' "ab01" filmOption none filmRecord
    (by decide) (by simp) (by decide) (by decide +kernel) (by simpa [filmOption] using hmovie)
    (by simpa [filmOption] using htags) (by simp) hends
  have hother : songRecord ≠ filmRecord := by decide
  exact ⟨s', hends, after, hmodified, by simpa [hother] using hstored⟩

end TorrentRemote.Client
