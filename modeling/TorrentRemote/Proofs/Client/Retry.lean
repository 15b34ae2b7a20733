import TorrentRemote.Proofs.Client.Modification

/-!
# Modifications that are done again

A modification reads a torrent and makes up to three calls: one for the stored name, one for labels
and limits, and one that starts or stops the torrent.  If one of them fails, the parts before it are
done and the others are not.  Each part is found again when the torrent is read once more, so that
doing it a second time changes nothing: the parts that were done stay as they are, and the modified
torrent is the one that a modification without failures would have made at once.

## Main definitions

* `Client.renamed`, `Client.changed`, `Client.pausedOrStarted`, `Client.modified` : what the parts of
  a modification and the whole of it make of a torrent.
* `Client.IsPartlyModified` : a torrent of which some parts of a modification were done.
* `Client.Makes` : an operation that makes one torrent of another, or leaves it if it fails.

## Main results

* `Client.renamed_renamed`, `Client.changed_changed`, `Client.pausedOrStarted_pausedOrStarted` :
  each part may be done twice.
* `Client.IsPartlyModified.modified_eq` : what was partly modified becomes what it would have become
  at once.
* `Client.modifyTorrent_again` : a modification that is done again after a failure leaves the daemon
  as one without failures.
-/

namespace TorrentRemote.Client

open Daemon

variable {σ : Type} {server : Server σ} {stored : σ → List TorrentRecord}
  {running : TorrentRecord → Int64} {s s' : Cache × σ} {records : List TorrentRecord}
  {record : TorrentRecord} {option : TorrentOption} {sideData : Option SideData}
  {hash : String}

/-! ### The parts of a modification -/

/-- A torrent with the stored name that a modification asks for. -/
def renamed (option : TorrentOption) (sideData : Option SideData) (record : TorrentRecord) :
    TorrentRecord :=
  { record with name := (newName? record.name option sideData).getD record.name }

/-- A torrent with the labels and limits that a modification asks for. -/
def changed (option : TorrentOption) (record : TorrentRecord) : TorrentRecord :=
  TorrentChange.applyTo { limitChanges option with labels := newLabels? record.labels option } record

/-- A torrent that is stopped or started if a modification asks for it. -/
def pausedOrStarted (running : TorrentRecord → Int64) (option : TorrentOption)
    (record : TorrentRecord) : TorrentRecord :=
  match option.paused with
  | none => record
  | some true => { record with status := 0 }
  | some false => { record with status := running record }

/-- What a modification without failures makes of a torrent. -/
def modified (running : TorrentRecord → Int64) (option : TorrentOption)
    (sideData : Option SideData) (record : TorrentRecord) : TorrentRecord :=
  pausedOrStarted running option (changed option (renamed option sideData record))

/-- The name that was written is found again. -/
theorem renamed_renamed (hplain : Name.IsPlain record.toTorrent.name)
    (hname : sideData = none → ∀ name ∈ option.name, Name.IsPlain name)
    (hkeys : ∀ data ∈ sideData, data.HasKeys) :
    renamed option sideData (renamed option sideData record) =
      renamed option sideData record := by
  by_cases hasked : option.name.isSome || sideData.isSome
  · have hnew : ∀ current, (newName? current option sideData).getD current =
        Name.encode (option.name.getD (Name.decode current).1)
          (sideData.getD (Name.decode current).2) := by
      intro current
      rw [newName?, if_pos hasked, Option.getD_some]
    simp only [renamed, hnew]
    congr 1
    cases hdata : sideData with
    | some data =>
      cases hgiven : option.name with
      | some name => rfl
      | none =>
        simp only [Option.getD_none, Option.getD_some]
        have hdecode : Name.decode (Name.encode (Name.decode record.name).1 data) =
            ((Name.decode record.name).1, data.nonzero) :=
          Name.decode_encode_of_isPlain hplain (hkeys data hdata)
        rw [hdecode]
    | none =>
      cases hgiven : option.name with
      | some name =>
        simp only [Option.getD_none, Option.getD_some]
        rw [Name.decode_encode_of_isPlain (hname hdata name hgiven)
          (Name.hasKeys_decode record.name), Name.nonzero_decode]
      | none => simp [hdata, hgiven] at hasked
  · have hnone : ∀ current, newName? current option sideData = none := fun current => if_neg hasked
    simp only [renamed, hnone, Option.getD_none]

/-- The category or the tags that were kept are found again. -/
theorem newLabels_again (labels : List String)
    (htags : option.category = none → ∀ tags ∈ option.tags, ∀ tag ∈ tags, Labels.IsTag tag) :
    (newLabels? ((newLabels? labels option).getD labels) option).getD
      ((newLabels? labels option).getD labels) = (newLabels? labels option).getD labels := by
  by_cases hasked : option.category.isSome || option.tags.isSome
  · have hnew : ∀ labels, newLabels? labels option =
        some (Labels.build (option.category.getD (Labels.categoryOf labels))
          (option.tags.getD (Labels.tagsOf labels))) := fun labels => if_pos hasked
    simp only [hnew, Option.getD_some]
    cases hcategory : option.category with
    | some category =>
      cases hgiven : option.tags with
      | some tags => rfl
      | none =>
        simp only [Option.getD_none, Option.getD_some]
        rw [Labels.tagsOf_build _ fun tag htag => (Labels.mem_tagsOf.1 htag).2,
          Labels.build_filter]
    | none =>
      cases hgiven : option.tags with
      | some tags =>
        simp only [Option.getD_none, Option.getD_some]
        rw [Labels.categoryOf_build _ (htags hcategory tags hgiven)]
      | none => simp [hcategory, hgiven] at hasked
  · have hnone : ∀ labels, newLabels? labels option = none := fun labels => if_neg hasked
    simp only [hnone, Option.getD_none]

theorem changed_changed
    (htags : option.category = none → ∀ tags ∈ option.tags, ∀ tag ∈ tags, Labels.IsTag tag) :
    changed option (changed option record) = changed option record := by
  simp only [changed, TorrentChange.applyTo, LimitChange.applyTo_applyTo,
    newLabels_again record.labels htags]

theorem pausedOrStarted_pausedOrStarted
    (hrunning : ∀ record, running { record with status := running record } = running record) :
    pausedOrStarted running option (pausedOrStarted running option record) =
      pausedOrStarted running option record := by
  unfold pausedOrStarted
  cases option.paused with
  | none => rfl
  | some paused =>
    cases paused with
    | true => rfl
    | false => simp only [hrunning]

theorem renamed_eq_self_iff : renamed option sideData record = record ↔
    (newName? record.name option sideData).getD record.name = record.name :=
  ⟨congrArg TorrentRecord.name, fun h => by rw [renamed, h]⟩

/-- The parts of a modification do not undo each other: the name is in its place after the labels
and limits were changed and after the torrent was stopped or started. -/
theorem renamed_changed (h : renamed option sideData record = record) :
    renamed option sideData (changed option record) = changed option record := by
  rw [renamed_eq_self_iff] at h ⊢
  exact h

theorem renamed_pausedOrStarted (h : renamed option sideData record = record) :
    renamed option sideData (pausedOrStarted running option record) =
      pausedOrStarted running option record := by
  rw [renamed_eq_self_iff] at h ⊢
  unfold pausedOrStarted
  split <;> exact h

theorem changed_pausedOrStarted (h : changed option record = record) :
    changed option (pausedOrStarted running option record) =
      pausedOrStarted running option record := by
  have hstatus : ∀ status, changed option { record with status } = { record with status } :=
    fun status => congrArg (fun record : TorrentRecord => { record with status }) h
  unfold pausedOrStarted
  split
  · exact h
  · exact hstatus _
  · exact hstatus _

/-! ### Torrents in between -/

/-- A torrent of which the first parts of a modification were done, from none of them to all. -/
inductive IsPartlyModified (running : TorrentRecord → Int64) (option : TorrentOption)
    (sideData : Option SideData) (record : TorrentRecord) : TorrentRecord → Prop
  | untouched : IsPartlyModified running option sideData record record
  | named : IsPartlyModified running option sideData record (renamed option sideData record)
  | labelled : IsPartlyModified running option sideData record
      (changed option (renamed option sideData record))
  | whole : IsPartlyModified running option sideData record
      (modified running option sideData record)

theorem IsPartlyModified.hash_eq {part : TorrentRecord}
    (h : IsPartlyModified running option sideData record part) : part.hash = record.hash := by
  cases h with
  | whole =>
    rw [modified, pausedOrStarted]
    split <;> rfl
  | _ => rfl

/-- **What was partly modified becomes what it would have become at once.** -/
theorem IsPartlyModified.modified_eq {part : TorrentRecord}
    (h : IsPartlyModified running option sideData record part)
    (hrunning : ∀ record, running { record with status := running record } = running record)
    (hplain : Name.IsPlain record.toTorrent.name)
    (hname : sideData = none → ∀ name ∈ option.name, Name.IsPlain name)
    (hkeys : ∀ data ∈ sideData, data.HasKeys)
    (htags : option.category = none → ∀ tags ∈ option.tags, ∀ tag ∈ tags, Labels.IsTag tag) :
    modified running option sideData part = modified running option sideData record := by
  have hrenamed := renamed_renamed hplain hname hkeys
  have hchanged := renamed_changed hrenamed
  cases h with
  | untouched => rfl
  | named => rw [modified, hrenamed, modified]
  | labelled => rw [modified, hchanged, changed_changed htags, modified]
  | whole =>
    have hlabels : changed option (changed option (renamed option sideData record)) =
        changed option (renamed option sideData record) := changed_changed htags
    rw [modified, modified, renamed_pausedOrStarted hchanged, changed_pausedOrStarted hlabels,
      pausedOrStarted_pausedOrStarted hrunning]

/-! ### Attempts -/

/-- An operation makes `after` of the torrent `record` if it succeeds, and leaves it if it fails. -/
structure Makes (server : Server σ) (stored : σ → List TorrentRecord) (hash : String)
    (operation : Operation Unit) (record after : TorrentRecord) : Prop where
  ok {s s' : Cache × σ} {records : List TorrentRecord} :
    stored s.2 = updateNamed [hash] (fun _ => record) records →
      Ends server operation.run s (.ok ()) s' →
        stored s'.2 = updateNamed [hash] (fun _ => after) records
  error {s s' : Cache × σ} {error : ClientError} :
    Ends server operation.run s (.error error) s' → stored s'.2 = stored s.2

theorem makes_pure (hash : String) (record : TorrentRecord) :
    Makes server stored hash (pure ()) record record where
  ok hstored hends := by rw [(ends_pure_iff.1 hends).2, hstored]
  error hends := nomatch (ends_pure_iff.1 hends).1

section Parts

variable (hserver : server.StartsAs stored running) (hfails : server.FailsWithoutEffect stored)
  (hhash : record.hasHash hash)
include hserver hfails hhash

theorem makes_rename (name : String) :
    Makes server stored hash (rename hash record.name name) record { record with name } where
  ok hstored hends := stored_rename hserver.toStoresAsAsked hstored hhash hends
  error hends := by
    by_cases hsame : record.name = name
    · rw [rename, if_pos hsame, ends_pure_iff] at hends
      cases hends.1
    · rw [rename, if_neg hsame, ends_perform_iff] at hends
      exact hfails rfl hends.2

theorem makes_applyChange (change : TorrentChange) :
    Makes server stored hash (applyChange hash change) record (change.applyTo record) where
  ok hstored hends := stored_applyChange hserver.toStoresAsAsked hstored hhash hends
  error hends := by
    by_cases hempty : change.isEmpty
    · rw [applyChange, if_pos hempty, ends_pure_iff] at hends
      cases hends.1
    · rw [applyChange, if_neg hempty, ends_perform_iff] at hends
      exact hfails rfl hends.2

theorem makes_stop : Makes server stored hash (setPaused hash true) record
    { record with status := 0 } where
  ok hstored hends := by
    rw [hserver.stops (ends_perform_iff.1 hends).2, hstored, updateNamed_updateNamed hhash]
  error hends := hfails rfl (ends_perform_iff.1 hends).2

theorem makes_start : Makes server stored hash (setPaused hash false) record
    { record with status := running record } where
  ok hstored hends := by
    rw [hserver.startsAs (ends_perform_iff.1 hends).2, hstored, updateNamed_updateNamed hhash]
  error hends := hfails rfl (ends_perform_iff.1 hends).2

/-- Nothing is renamed if no name is to be written. -/
theorem makes_renamed (option : TorrentOption) (sideData : Option SideData) :
    Makes server stored hash
      (match newName? record.name option sideData with
        | some name => rename hash record.name name
        | none => pure ()) record (renamed option sideData record) := by
  unfold renamed
  cases newName? record.name option sideData with
  | some name => exact makes_rename hserver hfails hhash name
  | none => exact makes_pure hash record

/-- Nothing is stopped or started if that is not asked for. -/
theorem makes_pausedOrStarted (option : TorrentOption) :
    Makes server stored hash
      (match option.paused with
        | some paused => setPaused hash paused
        | none => pure ()) record (pausedOrStarted running option record) := by
  unfold pausedOrStarted
  cases option.paused with
  | none => exact makes_pure hash record
  | some paused =>
    cases paused with
    | true => exact makes_stop hserver hfails hhash
    | false => exact makes_start hserver hfails hhash

end Parts

/-- However a modification ends, it has done some of its parts, and all of them if it succeeds. -/
theorem stored_applyModification_partly (hserver : server.StartsAs stored running)
    (hfails : server.FailsWithoutEffect stored)
    (hstored : stored s.2 = updateNamed [record.hash] (fun _ => record) records)
    {result : Except ClientError Unit}
    (hends : Ends server (applyModification record option sideData).run s result s') :
    ∃ part, IsPartlyModified running option sideData record part ∧
      (result = .ok () → part = modified running option sideData record) ∧
      stored s'.2 = updateNamed [record.hash] (fun _ => part) records := by
  have hrename := makes_renamed hserver hfails record.hasHash_self option sideData
  have hchange : Makes server stored record.hash
      (applyChange record.hash
        { limitChanges option with labels := newLabels? record.labels option })
      (renamed option sideData record) (changed option (renamed option sideData record)) :=
    makes_applyChange hserver hfails (renamed option sideData record).hasHash_self _
  have hpause : Makes server stored record.hash _ _ (modified running option sideData record) :=
    makes_pausedOrStarted hserver hfails
      (changed option (renamed option sideData record)).hasHash_self option
  rw [applyModification_eq] at hends
  rcases ends_operation_bind_iff.1 hends with ⟨error, rfl, hfailed⟩ | ⟨⟨⟩, s₁, hnamed, hends⟩
  · exact ⟨_, .untouched, (by rintro ⟨⟩), (hrename.error hfailed).trans hstored⟩
  have hstored₁ := hrename.ok hstored hnamed
  rcases ends_operation_bind_iff.1 hends with ⟨error, rfl, hfailed⟩ | ⟨⟨⟩, s₂, hlabelled, hends⟩
  · exact ⟨_, .named, (by rintro ⟨⟩), (hchange.error hfailed).trans hstored₁⟩
  have hstored₂ := hchange.ok hstored₁ hlabelled
  cases result with
  | ok => exact ⟨_, .whole, fun _ => rfl, hpause.ok hstored₂ hends⟩
  | error error => exact ⟨_, .labelled, (by rintro ⟨⟩), (hpause.error hends).trans hstored₂⟩

/-- However the modification of a torrent ends, it has done some of its parts, and all of them if it
succeeds. -/
theorem stored_modifyTorrent_partly (hserver : server.StartsAs stored running)
    (hfails : server.FailsWithoutEffect stored) (hdistinct : DistinctHashes (stored s.2))
    (hmem : record ∈ stored s.2) (hhash : record.hasHash hash)
    {result : Except ClientError Unit}
    (hends : Ends server (modifyTorrent hash option sideData).run s result s') :
    ∃ part, IsPartlyModified running option sideData record part ∧
      (result = .ok () → part = modified running option sideData record) ∧
      stored s'.2 = updateNamed [record.hash] (fun _ => part) (stored s.2) := by
  have hself := updateNamed_self hdistinct hmem
  rw [modifyTorrent, ends_exclusively_iff] at hends
  rcases ends_operation_bind_iff.1 hends with ⟨error, rfl, hfetch⟩ | ⟨current, s₁, hfetch, hends⟩
  · refine ⟨record, .untouched, (by rintro ⟨⟩), ?_⟩
    rw [hself]
    rcases ends_operation_bind_iff.1 hfetch with ⟨error, -, hcall⟩ | ⟨listed, s₁, hcall, hfound⟩
    · exact hfails rfl (ends_perform_iff.1 hcall).2
    · have hsame := (hserver.listsNamed (ends_perform_iff.1 hcall).2).2.2
      cases hfind : List.find? (fun record => Text.equalIgnoringAsciiCase record.hash hash) listed
      with
      | none =>
        rw [hfind] at hfound
        rw [(ends_throw_iff.1 hfound).2, hsame]
      | some found =>
        rw [hfind] at hfound
        cases (ends_pure_iff.1 hfound).1
  · obtain ⟨rfl, hsame⟩ := eq_of_fetchOne hserver.toStoresAsAsked hdistinct hmem hhash hfetch
    obtain ⟨s₂, hmodify, rfl⟩ := ends_followedBy_invalidate_iff.1 hends
    obtain ⟨part, hpart, hwhole, hafter⟩ :=
      stored_applyModification_partly hserver hfails (hsame.trans hself.symm) hmodify
    exact ⟨part, hpart, hwhole, hafter⟩

/-! ### Again -/

/-- Torrents are told apart by their hashes as long as these stay. -/
theorem distinctHashes_updateNamed (hdistinct : DistinctHashes records) (hmem : record ∈ records)
    {part : TorrentRecord} (hhash : part.hash = record.hash) :
    DistinctHashes (updateNamed [record.hash] (fun _ => part) records) := by
  rw [updateNamed_eq_map hdistinct hmem, DistinctHashes, List.map_map]
  refine Eq.mp (congrArg List.Nodup (List.map_congr_left fun other _ => ?_)) hdistinct
  by_cases heq : other = record <;> simp [heq, hhash]

theorem mem_updateNamed (hmem : record ∈ records) (part : TorrentRecord) :
    part ∈ updateNamed [record.hash] (fun _ => part) records :=
  List.mem_map.2 ⟨record, hmem, by simp [record.hasHash_self]⟩

/-- Without failures, a modification makes of a torrent what it asks for. -/
theorem ends_modifyTorrent_of_answers (hserver : server.StartsAs stored running)
    (hanswers : server.Answers)
    (hdistinct : DistinctHashes (stored s.2)) (hmem : record ∈ stored s.2)
    (hhash : record.hasHash hash) (option : TorrentOption) (sideData : Option SideData) :
    ∃ s', Ends server (modifyTorrent hash option sideData).run s (.ok ()) s' ∧
      stored s'.2 = updateNamed [record.hash] (fun _ => modified running option sideData record)
        (stored s.2) := by
  obtain ⟨s', hends⟩ := exists_ends_modifyTorrent hserver.toStoresAsAsked hanswers hdistinct hmem
    hhash option sideData
  obtain ⟨part, -, hwhole, hafter⟩ :=
    stored_modifyTorrent_partly hserver (hanswers.failsWithoutEffect stored) hdistinct hmem hhash
      hends
  exact ⟨s', hends, hwhole rfl ▸ hafter⟩

/-- **A modification may be done again after a failure.**  However the modification of a torrent
ended at a daemon whose failing calls have no effect, doing it once more without failures succeeds
and leaves the torrents as one modification without failures would have left them.  The display name
must be plain, a name that is given without side data must be plain, tags that are given without a
category must not look like the label of a category, and given side data must have keys of letters
and digits. -/
theorem modifyTorrent_again (flaky server : Server σ) (stored : σ → List TorrentRecord)
    (running : TorrentRecord → Int64) (hflaky : flaky.StartsAs stored running)
    (hfails : flaky.FailsWithoutEffect stored) (hserver : server.StartsAs stored running)
    (hanswers : server.Answers) (s s₁ : Cache × σ) (hash : String) (option : TorrentOption)
    (sideData : Option SideData) (record : TorrentRecord)
    (hdistinct : DistinctHashes (stored s.2)) (hmem : record ∈ stored s.2)
    (hhash : record.hasHash hash) (hplain : Name.IsPlain record.toTorrent.name)
    (hname : sideData = none → ∀ name ∈ option.name, Name.IsPlain name)
    (hkeys : ∀ data ∈ sideData, data.HasKeys)
    (htags : option.category = none → ∀ tags ∈ option.tags, ∀ tag ∈ tags, Labels.IsTag tag)
    (result : Except ClientError Unit)
    (hends : Ends flaky (modifyTorrent hash option sideData).run s result s₁) :
    ∃ s₂ s₃, Ends server (modifyTorrent hash option sideData).run s₁ (.ok ()) s₂ ∧
      Ends server (modifyTorrent hash option sideData).run s (.ok ()) s₃ ∧
      stored s₂.2 = stored s₃.2 := by
  obtain ⟨part, hpart, -, hstored⟩ :=
    stored_modifyTorrent_partly hflaky hfails hdistinct hmem hhash hends
  obtain ⟨s₃, hatonce, hstored₃⟩ :=
    ends_modifyTorrent_of_answers hserver hanswers hdistinct hmem hhash option sideData
  -- The second attempt finds the torrent as the first has left it.
  have hsame : part.hash = record.hash := hpart.hash_eq
  have hpartHash : part.hasHash hash := by
    rw [TorrentRecord.hasHash, hsame]
    exact hhash
  have hdistinct₁ : DistinctHashes (stored s₁.2) :=
    hstored ▸ distinctHashes_updateNamed hdistinct hmem hsame
  have hmem₁ : part ∈ stored s₁.2 := hstored ▸ mem_updateNamed hmem part
  obtain ⟨s₂, hagain, hstored₂⟩ :=
    ends_modifyTorrent_of_answers hserver hanswers hdistinct₁ hmem₁ hpartHash option sideData
  refine ⟨s₂, s₃, hagain, hatonce, ?_⟩
  rw [hstored₂, hstored₃, hpart.modified_eq hserver.running_again hplain hname hkeys htags, hstored,
    hsame, updateNamed_updateNamed (hsame ▸ part.hasHash_self)]

/-! ### A daemon that refuses to start torrents -/

/-- A daemon that refuses to start torrents and is otherwise `server`. -/
def refusingStarts (server : Server σ) : Server σ
  | .startTorrents _ => fun d => (.error (.server "refused"), d)
  | call => server call

theorem refusingStarts_startsAs (hserver : server.StartsAs stored running) :
    (refusingStarts server).StartsAs stored running where
  listsNamed h := hserver.listsNamed h
  renames h := hserver.renames h
  changes h := hserver.changes h
  starts h := nomatch h
  stops h := hserver.stops h
  startsAs h := nomatch h
  running_again := hserver.running_again

theorem refusingStarts_failsWithoutEffect (hfails : server.FailsWithoutEffect stored) :
    (refusingStarts server).FailsWithoutEffect stored := by
  intro call hcall d d' error h
  cases call with
  | startTorrents hashes =>
    cases h
    rfl
  | _ => exact hfails hcall h

/-- A torrent that is stopped. -/
def stoppedRecord : TorrentRecord := { filmRecord with status := 0 }

/-- A new name, a new category and a start. -/
def showOption : TorrentOption where
  name := some "Show"
  category := some "shows"
  paused := some false

/-- The first attempt gives the torrent its name and its labels and fails to start it.  The second
leaves what one attempt without failures leaves. -/
theorem modifyTorrent_again_after_refused_start :
    ∃ error s₁ s₂ s₃,
      Ends (refusingStarts (exactServer fun _ => ⟨"", ""⟩)) (modifyTorrent "ab01" showOption none).run
        ({}, [stoppedRecord]) (.error error) s₁ ∧
      s₁.2 = [{ stoppedRecord with
        name := "Show__meta.dl_5", labels := ["category:shows", "hd"] }] ∧
      Ends (exactServer fun _ => ⟨"", ""⟩) (modifyTorrent "ab01" showOption none).run s₁
        (.ok ()) s₂ ∧
      Ends (exactServer fun _ => ⟨"", ""⟩) (modifyTorrent "ab01" showOption none).run
        ({}, [stoppedRecord]) (.ok ()) s₃ ∧
      s₂.2 = s₃.2 := by
  obtain ⟨result, s₁, hends⟩ : ∃ result s₁, Ends (refusingStarts (exactServer fun _ => ⟨"", ""⟩))
      (modifyTorrent "ab01" showOption none).run ({}, [stoppedRecord]) result s₁ :=
    ⟨_, (_, _), rfl⟩
  have hfailed : result.toBool = false := by
    rw [hends.value_eq]
    decide +kernel
  have hstored : s₁.2 = [{ stoppedRecord with
      name := "Show__meta.dl_5", labels := ["category:shows", "hd"] }] := by
    rw [hends.daemon_eq]
    decide +kernel
  have hshow : Name.IsPlain "Show" := by decide +kernel
  obtain ⟨s₂, s₃, hagain, hatonce, hsame⟩ := modifyTorrent_again
    (refusingStarts (exactServer fun _ => ⟨"", ""⟩)) (exactServer fun _ => ⟨"", ""⟩) id (fun _ => 4)
    (refusingStarts_startsAs (exactServer_startsAs _))
    (refusingStarts_failsWithoutEffect ((exactServer_answers _).failsWithoutEffect id))
    (exactServer_startsAs _) (exactServer_answers _) ({}, [stoppedRecord]) s₁ "ab01" showOption none
    stoppedRecord (by decide) (by simp) (by decide) (by decide +kernel)
    (by simpa [showOption] using hshow) (by simp) (by simp [showOption]) result hends
  cases result with
  | ok => cases hfailed
  | error error => exact ⟨error, s₁, s₂, s₃, hends, hstored, hagain, hatonce, hsame⟩

end TorrentRemote.Client
