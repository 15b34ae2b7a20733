import TorrentRemote.Proofs.Client.Calls
import TorrentRemote.Proofs.Client.Settings

/-!
# Writing back the limits that were read

A limit of a torrent or of all torrents together is read in bytes per second, and the same number
is written back.  The daemon stores whole KiB and a switch, and what was read is -1 or 0 if the
limit is switched off.  The limit in force stays the same, up to one exception: a limit of zero is
read as 0, and writing 0 removes the limit.

## Main definitions

* `SpeedLimit.StaysInForce` : the limit in force after another one was written.
* `Daemon.Direction` : one of the two limits of a torrent.
* `Client.SendsLimitsBack`, `Client.SettingsStay` : what is written back for a torrent, and for a
  setting.

## Main results

* `Client.limits_written_back` : limits that are written back stay in force.
* `Client.zero_limit_not_written_back` : a limit of zero is removed.
-/

namespace TorrentRemote

open Daemon

/-! ### Limits -/

/-- After another limit was written, the same one is in force as before, or none if that was
zero. -/
def SpeedLimit.StaysInForce (before after : SpeedLimit) : Prop :=
  after.inForce? = before.inForce?.filter (· ≠ 0)

/-- The number that is read of a limit stands for the same limit. -/
theorem SpeedLimit.staysInForce_applyTo_ofBytes {limit : SpeedLimit} {cut : Int64 → Int64}
    (hnonneg : 0 ≤ limit.kib.toInt) (hle : limit.kib.toInt ≤ 2 ^ 53)
    (hcut : cut limit.kib = limit.kib) :
    limit.StaysInForce (((LimitChange.ofBytes limit.toBytes).mapKib cut).applyTo limit) := by
  obtain ⟨kib, enabled⟩ := limit
  cases enabled with
  | false =>
    have hnone : (toBytes ⟨kib, false⟩).toInt ≤ 0 := by
      rw [toBytes_of_disabled]
      decide
    rw [LimitChange.applyTo_ofBytes_of_nonpos hnone]
    rfl
  | true =>
    -- Only what is read of the limit zero stands for no limit.
    by_cases hzero : kib = 0
    · subst hzero
      rw [LimitChange.applyTo_ofBytes_of_nonpos (by decide)]
      rfl
    · have hpos : 0 < kib.toInt := by
        have hne : kib.toInt ≠ (0 : Int64).toInt := mt Int64.toInt_inj.1 hzero
        exact lt_of_le_of_ne hnonneg (Ne.symm hne)
      have hbytes := toInt_toBytes_of_enabled (Int.le_of_lt hpos)
      have hmax : Int64.maxValue.toInt = 2 ^ 63 - 1 := rfl
      rw [LimitChange.ofBytes_of_pos (by omega), ofBytes_toBytes hpos hle]
      change some (cut kib) = Option.filter _ (some kib)
      rw [hcut, Option.filter_some_pos (by simpa using hzero)]

/-- The number that is read of a limit for all torrents stands for the same limit as the one that is
read of a limit for a torrent. -/
theorem Daemon.LimitChange.ofBytes_globalLimit (limit : SpeedLimit) :
    LimitChange.ofBytes (globalLimit limit) = LimitChange.ofBytes limit.toBytes := by
  unfold globalLimit
  split
  · rw [LimitChange.ofBytes, LimitChange.ofBytes, SpeedLimit.ofBytes_of_nonpos (by decide),
      SpeedLimit.ofBytes_of_nonpos (by omega)]
  · rfl

/-! ### Torrents -/

/-- One of the two limits of a torrent. -/
inductive Daemon.Direction where
  | download
  | upload

namespace Daemon.Direction

/-- The limit that the daemon tells. -/
def limit : Direction → TorrentRecord → SpeedLimit
  | download, record => record.downloadLimit
  | upload, record => record.uploadLimit

/-- The limit that a client reports, in bytes per second. -/
def reported : Direction → Torrent → Int64
  | download, torrent => torrent.downloadSpeedLimit
  | upload, torrent => torrent.uploadSpeedLimit

/-- The limit that is asked for, in bytes per second. -/
def requested : Direction → TorrentOption → Option Int64
  | download, option => option.downloadSpeedLimit
  | upload, option => option.uploadSpeedLimit

end Daemon.Direction

namespace Client

open Direction

variable {σ : Type}

theorem reported_toTorrent (direction : Direction) (record : TorrentRecord) :
    direction.reported record.toTorrent = (direction.limit record).toBytes := by
  cases direction <;> rfl

/-- A change makes of a limit what is asked for. -/
theorem limit_applyTo (direction : Direction) (labels : Option (List String))
    (option : TorrentOption) (record : TorrentRecord) :
    direction.limit (TorrentChange.applyTo ⟨labels, limitAsked option.downloadSpeedLimit,
      limitAsked option.uploadSpeedLimit⟩ record) =
        (limitAsked (direction.requested option)).applyTo (direction.limit record) := by
  cases direction <;> rfl

/-- A modification that asks for a limit changes the settings. -/
theorem exists_mem_modificationCalls {direction : Direction} {option : TorrentOption}
    {bytes : Int64} (h : direction.requested option = some bytes) (current : TorrentRecord)
    (sideData : Option SideData) :
    ∃ change, .setTorrents [current.hash] change ∈ modificationCalls current option sideData := by
  simp only [setTorrents_mem_modificationCalls_iff, mem_changeCalls_iff]
  refine ⟨_, ?_, rfl⟩
  rintro ⟨-, hdown, hup⟩
  cases direction with
  | download => cases hdown.symm.trans h
  | upload => cases hup.symm.trans h

/-- A torrent that is found first is the one that is taken. -/
theorem Fetches.eq_ok {hash : String} {records : List TorrentRecord} {current : TorrentRecord}
    {fetched : Except ClientError TorrentRecord} (h : Fetches hash (.ok records) fetched)
    (hfind : records.find? (fun record => record.hasHash hash) = some current) :
    fetched = .ok current := by
  cases h with
  | notFound _ hnone =>
    exact absurd (List.find?_some hfind) (hnone current (List.mem_of_find?_eq_some hfind))
  | found before first after hbefore hfirst =>
    have hfound : (before ++ first :: after).find? (fun record => record.hasHash hash) =
        some first :=
      List.find?_eq_some_iff_append.2 ⟨hfirst, before, after, rfl, by simpa using hbefore⟩
    rw [Option.some.inj (hfound.symm.trans hfind)]

/-- If a limit of a torrent was read and a modification writes it back, the change of settings that
is sent for the torrent leaves the limit in force.  It is sent if no call fails. -/
def SendsLimitsBack (server : Server σ) : Prop :=
  ∀ (cache : Cache) (d : σ) (hash : String) (option : TorrentOption) (sideData : Option SideData),
    ∃ (result : Except ClientError Unit) (cache' : Cache) (d' : σ)
      (answer : Except ClientError (List TorrentRecord)) (later : List Exchange),
      Ends server.recorded (modifyTorrent hash option sideData).run (cache, d, []) result
        (cache', d', ⟨.getTorrents (some [hash]), answer⟩ :: later) ∧
      ∀ (records : List TorrentRecord) (current : TorrentRecord) (direction : Direction),
        answer = .ok records → records.find? (fun record => record.hasHash hash) = some current →
        0 ≤ (direction.limit current).kib.toInt → (direction.limit current).kib.toInt ≤ 2 ^ 53 →
        direction.requested option = some (direction.reported current.toTorrent) →
        (result = .ok () → ∃ change, ⟨.setTorrents [current.hash] change, .ok ()⟩ ∈ later) ∧
        ∀ (hashes : List String) (change : TorrentChange) (done : Except ClientError Unit),
          ⟨.setTorrents hashes change, done⟩ ∈ later → hashes = [current.hash] ∧
            (direction.limit current).StaysInForce (direction.limit (change.applyTo current))

theorem sendsLimitsBack (server : Server σ) : SendsLimitsBack server := by
  intro cache d hash option sideData
  obtain ⟨result, s', hends⟩ : ∃ result s', Ends server.recorded
      (modifyTorrent hash option sideData).run (cache, d, []) result s' := exists_ends
  obtain ⟨cache', d', answer, fetched, later, rfl, hfetches, hmodifies⟩ := modifies_of_ends hends
  refine ⟨result, cache', d', answer, later, hends, ?_⟩
  rintro records current direction rfl hfind hnonneg hle hrequested
  obtain rfl := hfetches.eq_ok hfind
  obtain ⟨hmade, -⟩ := hmodifies
  constructor
  · rintro rfl
    obtain ⟨change, hmem⟩ := exists_mem_modificationCalls hrequested current sideData
    obtain ⟨⟨⟩, hdone⟩ := hmade.exists_mem hmem
    exact ⟨change, hdone⟩
  · intro hashes change done hmem
    have hplan := setTorrents_mem_modificationCalls_iff.1 (hmade.mem_plan hmem)
    obtain ⟨-, heq⟩ := mem_changeCalls_iff.1 hplan
    cases heq
    refine ⟨rfl, ?_⟩
    rw [limit_applyTo, hrequested, reported_toTorrent, limitAsked_eq, Option.map_some,
      Option.getD_some, ← LimitChange.mapKib_id (.ofBytes _)]
    exact SpeedLimit.staysInForce_applyTo_ofBytes hnonneg hle rfl

/-! ### Settings -/

/-- If the text of the setting for a limit was read and is written back, the limit stays in
force. -/
def SettingsStay (server : Server σ) (session : σ → Session) : Prop :=
  ∀ (s : Cache × σ) (setting : Setting) (limit : SpeedLimit),
    setting.limit? (session s.2) = some limit →
    0 ≤ limit.kib.toInt → limit.kib.toInt ≤ 2 ^ 31 - 1 →
    ∃ text s₁ change s' after,
      Ends server (getSetting setting.name).run s (.ok text) s₁ ∧
      Sets server setting.name text change s₁ s' ∧
      setting.limit? (session s'.2) = some after ∧ limit.StaysInForce after

theorem settingsStay_of_keepsSettings {server : Server σ} {session : σ → Session}
    {cut : Int64 → Int64} (h : server.KeepsSettings session (SessionChange.mapKib cut))
    (hcut : ∀ kib : Int64, 0 ≤ kib.toInt → kib.toInt ≤ 2 ^ 31 - 1 → cut kib = kib) :
    SettingsStay server session := by
  intro s setting limit hlimit hnonneg hle
  obtain ⟨s₁, hread, hsame⟩ := exists_reads h setting s
  rw [settingText_of_limit? hlimit] at hread
  have hsetting : setting ≠ .savePath := by
    rintro rfl
    cases hlimit
  obtain ⟨s', hsets, hsession⟩ := exists_sets h
    (settingChange_of_parseSpeed_eq_ok hsetting (setting.parseSpeed_showInt64 _)) s₁
  have hafter := Setting.limit?_applyTo_changing setting cut (.ofBytes (globalLimit limit))
    (session s₁.2)
  rw [← hsession, hsame, hlimit, Option.map_some, LimitChange.ofBytes_globalLimit] at hafter
  exact ⟨_, s₁, _, s', _, hread, hsets, hafter,
    SpeedLimit.staysInForce_applyTo_ofBytes hnonneg (by omega) (hcut _ hnonneg hle)⟩

/-- **Limits that are written back stay in force.**  A limit of a torrent between 0 and `2 ^ 53` KiB
per second is read, and a modification asks for what was read.  Whatever the daemon answers, a
change of settings that is sent is one of the torrent, after which the same limit is in force as
before, or none if that was zero.  The same holds for a limit of all torrents together that is less
than `2 ^ 31`, whose text is read and then set, at a daemon itself and over a network. -/
theorem limits_written_back {ρ τ : Type} (server : Server σ) {daemon : Server ρ}
    {session : ρ → Session} (hdaemon : daemon.KeepsSettings session id) {host : Rpc.Host τ}
    {endpoint : Rpc.Endpoint} {hosted : τ → Session} {idOf : τ → String}
    (hhost : host.KeepsSettings endpoint hosted idOf) :
    SendsLimitsBack server ∧ SettingsStay daemon session ∧
      SettingsStay (host.server endpoint) (fun s => hosted s.2) := by
  refine ⟨sendsLimitsBack server, ?_, ?_⟩
  · exact settingsStay_of_keepsSettings hdaemon.mapKib_id fun _ _ _ => rfl
  · -- In this range nothing is cut down on the way.
    refine settingsStay_of_keepsSettings hhost.server_mapKib fun kib hnonneg hle => ?_
    have hgreatest : Rpc.greatestSessionLimit = 2 ^ 31 - 1 := rfl
    rw [← Int64.toInt_inj, Rpc.toInt_sentKib]
    omega

/-- A torrent with the greatest limit in one direction and the limit zero in the other. -/
def unevenRecord : TorrentRecord :=
  { onlyRecord with downloadLimit := ⟨0, true⟩, uploadLimit := ⟨9007199254740992, true⟩ }

/-- The greatest limit is cut off when it is read, and yet it is what is written back. -/
theorem limits_written_back_unevenRecord :
    Daemon.settingsServer.KeepsSettings id id ∧
    Rpc.settingsHost.KeepsSettings Rpc.localEndpoint id (fun _ => "0") ∧
    (∃ cache d later change, Ends (exactServer fun _ => ⟨"", ""⟩).recorded (modifyTorrent "AB"
        { uploadSpeedLimit := some unevenRecord.toTorrent.uploadSpeedLimit } none).run
        ({}, [unevenRecord], []) (.ok ())
        (cache, d, ⟨.getTorrents (some ["AB"]), .ok [unevenRecord]⟩ :: later) ∧
      ⟨.setTorrents ["ab"] change, .ok ()⟩ ∈ later ∧
      (change.applyTo unevenRecord).uploadLimit.inForce? = some 9007199254740992) ∧
    ∃ text s₁ change s' after,
      Ends (Rpc.settingsHost.server Rpc.localEndpoint)
        (getSetting "global_download_speed_limit").run ({}, {}, homeSession) (.ok text) s₁ ∧
      Sets (Rpc.settingsHost.server Rpc.localEndpoint) "global_download_speed_limit" text change
        s₁ s' ∧
      Setting.globalDownloadSpeedLimit.limit? s'.2.2 = some after ∧ after.inForce? = some 100 := by
  have hserver := Daemon.settingsServer_keepsSettings
  have hhost := Rpc.settingsHost_keepsSettings Rpc.localEndpoint
  obtain ⟨hsends, -, hremote⟩ :=
    limits_written_back (exactServer fun _ => ⟨"", ""⟩) hserver hhost
  refine ⟨hserver, hhost, ?_, ?_⟩
  · obtain ⟨result, cache, d, answer, later, hends, hkeeps⟩ := hsends {} [unevenRecord] "AB"
      { uploadSpeedLimit := some unevenRecord.toTorrent.uploadSpeedLimit } none
    obtain ⟨rfl, rfl⟩ : result = .ok () ∧ answer = .ok [unevenRecord] := by
      cases hends
      exact ⟨rfl, rfl⟩
    obtain ⟨hsent, hstays⟩ :=
      hkeeps [unevenRecord] unevenRecord .upload rfl rfl (by decide) (by decide) rfl
    obtain ⟨change, hmem⟩ := hsent rfl
    exact ⟨cache, d, later, change, hends, hmem, (hstays _ _ _ hmem).2.trans (by decide)⟩
  · obtain ⟨text, s₁, change, s', after, hread, hsets, hafter, hstays⟩ :=
      hremote ({}, {}, homeSession) .globalDownloadSpeedLimit ⟨100, true⟩ rfl (by decide)
        (by decide)
    exact ⟨text, s₁, change, s', after, hread, hsets, hafter, hstays.trans (by decide)⟩

/-- **A limit of zero is removed.**  The daemon has a torrent whose limit for downloads is zero, and
this is in force.  A modification that writes back what is read of it sends a change after which no
limit is in force.  The same becomes of the limit zero for all torrents together. -/
theorem zero_limit_not_written_back :
    (∃ cache d change, Ends (exactServer fun _ => ⟨"", ""⟩).recorded (modifyTorrent "ab"
        { downloadSpeedLimit := some unevenRecord.toTorrent.downloadSpeedLimit } none).run
        ({}, [unevenRecord], []) (.ok ())
        (cache, d, [⟨.getTorrents (some ["ab"]), .ok [unevenRecord]⟩,
          ⟨.setTorrents ["ab"] change, .ok ()⟩]) ∧
      unevenRecord.downloadLimit.inForce? = some 0 ∧
      (change.applyTo unevenRecord).downloadLimit.inForce? = none) ∧
    ∃ (s s₁ s' : Cache × Session) (text : String) (change : SessionChange),
      Ends settingsServer (getSetting "global_download_speed_limit").run s (.ok text) s₁ ∧
      Sets settingsServer "global_download_speed_limit" text change s₁ s' ∧
      s.2.downLimit.inForce? = some 0 ∧ s'.2.downLimit.inForce? = none := by
  refine ⟨⟨_, _, _, rfl, rfl, rfl⟩, ?_⟩
  have hkeeps := settingsServer_keepsSettings
  have hspeed := Setting.parseSpeed_showInt64 .globalDownloadSpeedLimit (globalLimit ⟨0, true⟩)
  obtain ⟨s₁, hread, hsame⟩ :=
    exists_reads hkeeps .globalDownloadSpeedLimit ({}, { homeSession with downLimit := ⟨0, true⟩ })
  obtain ⟨s', hsets, hsession⟩ :=
    exists_sets hkeeps (settingChange_of_parseSpeed_eq_ok (by decide) hspeed) s₁
  refine ⟨_, s₁, s', _, _, hread, hsets, rfl, ?_⟩
  rw [hsame] at hsession
  exact congrArg (fun session : Session => session.downLimit.inForce?) hsession

end Client

end TorrentRemote
