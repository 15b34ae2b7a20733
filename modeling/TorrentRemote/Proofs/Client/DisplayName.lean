import TorrentRemote.Proofs.Client.Modification
import TorrentRemote.Proofs.Torrent.Rewriting

/-!
# Display names under a modification of the side data

Side data shares its place at the daemon with the display name.  A modification that gives side data
and no name reads the display name and writes it back with the new side data.  The daemon may report
any stored name, also one whose end only looks like side data and so belongs to the display name.

## Main results

* `Client.titles_modifyTorrent` : the stored names after a modification.
* `Client.modifyTorrent_sideData` : what becomes of any display name when side data is given.
* `Client.modifyTorrent_loses_separator` : a display name that is not kept.
-/

namespace TorrentRemote.Client

open Daemon

variable {σ : Type} {server : Server σ} {stored : σ → List TorrentRecord} {s s' : Cache × σ}
  {record : TorrentRecord} {hash : String}

/-! ### Stored names -/

theorem titles_rename (hserver : server.RenamesAsAsked stored)
    (hdistinct : DistinctHashes (stored s.2)) (hmem : record ∈ stored s.2) {name : String}
    (hends : Ends server (rename record.hash record.name name).run s (.ok ()) s') :
    (stored s'.2).map TorrentRecord.title =
      (updateNamed [record.hash] (fun _ => { record with name }) (stored s.2)).map
        TorrentRecord.title := by
  by_cases hsame : record.name = name
  · rw [rename, if_pos hsame, ends_pure_iff] at hends
    rw [hends.2, ← hsame, updateNamed_self hdistinct hmem]
  · rw [rename, if_neg hsame, ends_perform_iff] at hends
    rw [hserver.renames hends.2, updateNamed_rename hdistinct hmem]

theorem titles_applyChange (hserver : server.RenamesAsAsked stored) {change : TorrentChange}
    (hends : Ends server (applyChange hash change).run s (.ok ()) s') :
    (stored s'.2).map TorrentRecord.title = (stored s.2).map TorrentRecord.title := by
  by_cases hempty : change.isEmpty
  · rw [applyChange, if_pos hempty, ends_pure_iff] at hends
    rw [hends.2]
  · rw [applyChange, if_neg hempty, ends_perform_iff] at hends
    exact hserver.keepsTitles rfl hends.2

theorem titles_setPaused (hserver : server.RenamesAsAsked stored) {paused : Bool}
    (hends : Ends server (setPaused hash paused).run s (.ok ()) s') :
    (stored s'.2).map TorrentRecord.title = (stored s.2).map TorrentRecord.title := by
  cases paused with
  | true => exact hserver.keepsTitles rfl (ends_perform_iff.1 hends).2
  | false => exact hserver.keepsTitles rfl (ends_perform_iff.1 hends).2

/-- Of the parts of a modification only the first changes stored names, and only that of the
torrent. -/
theorem titles_applyModification (hserver : server.RenamesAsAsked stored)
    (hdistinct : DistinctHashes (stored s.2)) (hmem : record ∈ stored s.2)
    {option : TorrentOption} {sideData : Option SideData}
    (hends : Ends server (applyModification record option sideData).run s (.ok ()) s') :
    (stored s'.2).map TorrentRecord.title =
      (updateNamed [record.hash] (fun _ =>
        { record with name := (newName? record.name option sideData).getD record.name })
        (stored s.2)).map TorrentRecord.title := by
  rw [applyModification_eq] at hends
  obtain ⟨⟨⟩, s₁, hrename, hends⟩ := ends_bind_ok_iff.1 hends
  obtain ⟨⟨⟩, s₂, hchange, hpause⟩ := ends_bind_ok_iff.1 hends
  have hpaused : (stored s'.2).map TorrentRecord.title =
      (stored s₂.2).map TorrentRecord.title := by
    cases hgiven : option.paused with
    | none =>
      rw [hgiven] at hpause
      rw [(ends_pure_iff.1 hpause).2]
    | some paused =>
      rw [hgiven] at hpause
      exact titles_setPaused hserver hpause
  rw [hpaused, titles_applyChange hserver hchange]
  cases hname : newName? record.name option sideData with
  | some name =>
    rw [hname] at hrename
    exact titles_rename hserver hdistinct hmem hrename
  | none =>
    rw [hname] at hrename
    rw [(ends_pure_iff.1 hrename).2, Option.getD_none, updateNamed_self hdistinct hmem]

/-- A modification gives the torrent its new stored name, if one is asked for.  The other torrents
are called what they were called. -/
theorem titles_modifyTorrent (hserver : server.RenamesAsAsked stored)
    (hdistinct : DistinctHashes (stored s.2)) (hmem : record ∈ stored s.2)
    (hhash : record.hasHash hash) {option : TorrentOption} {sideData : Option SideData}
    (hends : Ends server (modifyTorrent hash option sideData).run s (.ok ()) s') :
    (stored s'.2).map TorrentRecord.title = (stored s.2).map fun other =>
      if other = record then
        (record.hash, (newName? record.name option sideData).getD record.name)
      else other.title := by
  rw [modifyTorrent, ends_exclusively_iff] at hends
  obtain ⟨current, s₁, hfetch, hends⟩ := ends_bind_ok_iff.1 hends
  obtain ⟨rfl, hsame⟩ := eq_of_fetchOne_of_renames hserver hdistinct hmem hhash hfetch
  obtain ⟨s₂, hmodify, rfl⟩ := ends_followedBy_invalidate_iff.1 hends
  rw [← hsame] at hdistinct hmem
  rw [titles_applyModification hserver hdistinct hmem hmodify, updateNamed_eq_map hdistinct hmem,
    hsame, List.map_map]
  refine List.map_congr_left fun other _ => ?_
  exact apply_ite TorrentRecord.title (other = current) _ _

/-! ### Display names -/

/-- **Side data on any torrent.**  If a modification that gives side data and no name succeeds at a
daemon that applies renames, the torrent has the given side data without its zeros, and the other
torrents are called what they were called.  The display name of the torrent is kept, unless it ends
in a separator and some number is not zero; then it loses this separator.  Nothing is said of the
stored name that the daemon reports; the keys must be letters and digits. -/
theorem modifyTorrent_sideData (server : Server σ) (stored : σ → List TorrentRecord)
    (hserver : server.RenamesAsAsked stored) (s s' : Cache × σ) (hash : String)
    (option : TorrentOption) (data : SideData) (record : TorrentRecord)
    (hdistinct : DistinctHashes (stored s.2)) (hmem : record ∈ stored s.2)
    (hhash : record.hasHash hash) (hname : option.name = none) (hkeys : data.HasKeys)
    (hends : Ends server (modifyTorrent hash option (some data)).run s (.ok ()) s') :
    ∃ after ∈ stored s'.2, after.hash = record.hash ∧
      after.toTorrent.sideData = data.nonzero ∧
      (after.toTorrent.name = record.toTorrent.name ↔
        data.nonzero.entries = [] ∨ ¬ Name.separator <:+ record.toTorrent.name.toList) ∧
      (after.toTorrent.name ≠ record.toTorrent.name →
        record.toTorrent.name.toList = after.toTorrent.name.toList ++ Name.separator) ∧
      (stored s'.2).map TorrentRecord.title = (stored s.2).map fun other =>
        if other = record then after.title else other.title := by
  have htitles := titles_modifyTorrent hserver hdistinct hmem hhash hends
  have hnew : newName? record.name option (some data) =
      some (Name.encode (Name.decode record.name).1 data) := by
    simp [newName?, hname]
  rw [hnew, Option.getD_some] at htitles
  -- Among the torrents afterwards is one with the title that the modified torrent got.
  obtain ⟨after, hafter, htitle⟩ : ∃ after ∈ stored s'.2, after.title =
      (record.hash, Name.encode (Name.decode record.name).1 data) := by
    rw [← List.mem_map, htitles]
    exact List.mem_map.2 ⟨record, hmem, if_pos rfl⟩
  rw [← htitle] at htitles
  obtain ⟨hafterHash, hafterName⟩ := Prod.mk.inj htitle
  have hdecode := Name.decode_encode_decode record.name hkeys
  rw [← hafterName] at hdecode
  exact ⟨after, hafter, hafterHash, hdecode.1, hdecode.2.1, hdecode.2.2, htitles⟩

/-- A stored name whose end looks like side data, but for a blank. -/
def blankRecord : TorrentRecord := { filmRecord with name := "Film__meta.dl 5" }

theorem modifyTorrent_sideData_blankRecord :
    ∃ s', Ends (exactServer fun _ => ⟨"", ""⟩)
        (modifyTorrent "ab01" {} (some (.ofList [("dl", 0), ("seed", 3)]))).run
        ({}, [blankRecord, songRecord]) (.ok ()) s' ∧
      ∃ after ∈ s'.2, after.toTorrent.name = "Film__meta.dl 5" ∧
        after.toTorrent.sideData = .ofList [("seed", 3)] := by
  obtain ⟨s', hends⟩ : ∃ s', Ends (exactServer fun _ => ⟨"", ""⟩)
      (modifyTorrent "ab01" {} (some (.ofList [("dl", 0), ("seed", 3)]))).run
      ({}, [blankRecord, songRecord]) (.ok ()) s' :=
    exists_ends_ok (by decide +kernel)
  have hname : blankRecord.toTorrent.name = "Film__meta.dl 5" := by decide +kernel
  obtain ⟨after, hafter, -, hdata, hkept, -⟩ := modifyTorrent_sideData _ id
    (exactServer_storesAsAsked fun _ => ⟨"", ""⟩).renamesAsAsked _ s' "ab01" {}
    (.ofList [("dl", 0), ("seed", 3)]) blankRecord (by decide) (by simp) (by decide) rfl
    (by decide) hends
  refine ⟨s', hends, after, hafter, ?_, hdata.trans (by decide +kernel)⟩
  rw [hkept.2 (.inr (by rw [hname]; decide +kernel)), hname]

/-- A stored name that ends in a separator with nothing after it. -/
def bareRecord : TorrentRecord := { filmRecord with hash := "ab", name := "foo__meta." }

/-- **A display name that is not kept.**  The separator at its end is taken for the beginning of the
side data that is written after it. -/
theorem modifyTorrent_loses_separator :
    (exactServer fun _ => ⟨"", ""⟩).RenamesAsAsked id ∧ DistinctHashes [bareRecord] ∧
    (SideData.ofList [("a", 1)]).HasKeys ∧ bareRecord.toTorrent.name = "foo__meta." ∧
    ∃ s', Ends (exactServer fun _ => ⟨"", ""⟩)
        (modifyTorrent "ab" {} (some (.ofList [("a", 1)]))).run ({}, [bareRecord]) (.ok ()) s' ∧
      s'.2.map (fun after => after.toTorrent.name) = ["foo"] := by
  have hserver := (exactServer_storesAsAsked fun _ => ⟨"", ""⟩).renamesAsAsked
  obtain ⟨s', hends⟩ : ∃ s', Ends (exactServer fun _ => ⟨"", ""⟩)
      (modifyTorrent "ab" {} (some (.ofList [("a", 1)]))).run ({}, [bareRecord]) (.ok ()) s' :=
    exists_ends_ok (by decide +kernel)
  have htitles := titles_modifyTorrent hserver (by decide) (by simp) bareRecord.hasHash_self hends
  refine ⟨hserver, by decide, by decide, by decide +kernel, s', hends, ?_⟩
  have hnames := congrArg (List.map fun title => (Name.decode title.2).1) htitles
  rw [List.map_map] at hnames
  exact hnames.trans (by decide +kernel)

end TorrentRemote.Client
