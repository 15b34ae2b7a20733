import TorrentRemote.Client.Settings
import TorrentRemote.Proofs.Client.Caching
import TorrentRemote.Proofs.Rpc.Host
import TorrentRemote.Proofs.Setting
import Mathlib.Data.Rat.Floor

/-!
# Reading back the settings of a client

A setting is given a value and read afterwards.  A value that the setting does not take is refused
before anything is done, and any other is one call of the daemon.  What is read then is the value up
to rounding and trimming, and the other settings are what they were.  The daemon either answers
calls itself or is spoken to over a network, where limits are cut down.

## Main definitions

* `Setting.limit?`, `Setting.limitChange?` : the limit of the daemon that a setting stands for, and
  what a change makes of it.
* `Client.Reads`, `Client.Sets` : what the text of a setting is, and that a setting is given a value
  with one call.
* `Client.ReadsBack` : the settings of a daemon are read back as they were written.

## Main results

* `Client.readsBack_of_keepsSettings` : a daemon that keeps its settings gives them back.
* `Client.setting_reads_back` : what is refused, and what is read back.
-/

namespace TorrentRemote

open Daemon (Session SessionChange LimitChange Server)

/-! ### Settings -/

namespace Setting

variable {setting : Setting}

/-- The limit of the daemon that a setting stands for. -/
def limit? : Setting → Session → Option SpeedLimit
  | globalDownloadSpeedLimit, session => some session.downLimit
  | globalUploadSpeedLimit, session => some session.upLimit
  | savePath, _ => none

/-- What a change makes of the limit that a setting stands for. -/
def limitChange? : Setting → SessionChange → Option LimitChange
  | globalDownloadSpeedLimit, change => some change.downLimit
  | globalUploadSpeedLimit, change => some change.upLimit
  | savePath, _ => none

/-- The change of the limit that a setting stands for. -/
def changing : Setting → LimitChange → SessionChange
  | globalDownloadSpeedLimit, change => { downLimit := change }
  | globalUploadSpeedLimit, change => { upLimit := change }
  | savePath, _ => {}

theorem ofName_name (setting : Setting) : ofName setting.name = .ok setting := by
  cases setting <;> rfl

theorem ofName_of_unknown {name : String} (h : ∀ setting : Setting, setting.name ≠ name) :
    ofName name = .error (.unknownSetting name) := by
  have hnone : all.find? (fun setting => setting.name == name) = none :=
    List.find?_eq_none.2 fun setting _ heq => h setting (beq_iff_eq.1 heq)
  rw [ofName, hnone]

theorem exists_limit? (h : setting ≠ savePath) (session : Session) :
    ∃ limit, setting.limit? session = some limit := by
  cases setting with
  | savePath => exact absurd rfl h
  | _ => exact ⟨_, rfl⟩

/-- The change of a limit changes the limit that the setting stands for. -/
theorem limit?_applyTo_changing (setting : Setting) (cut : Int64 → Int64) (change : LimitChange)
    (session : Session) :
    setting.limit? (((setting.changing change).mapKib cut).applyTo session) =
      (setting.limit? session).map (change.mapKib cut).applyTo := by
  cases setting <;> rfl

theorem limitChange?_changing (h : setting ≠ savePath) (cut : Int64 → Int64)
    (change : LimitChange) :
    setting.limitChange? ((setting.changing change).mapKib cut) = some (change.mapKib cut) := by
  cases setting with
  | savePath => exact absurd rfl h
  | _ => rfl

end Setting

namespace Client

open Setting

variable {setting other : Setting} {value : String} {speed : Int64}

/-! ### Changes -/

theorem settingChange_of_parseSpeed_eq_ok (hsetting : setting ≠ .savePath)
    (hspeed : setting.parseSpeed value = .ok speed) :
    settingChange setting value = .ok (setting.changing (.ofBytes speed)) := by
  cases setting with
  | savePath => exact absurd rfl hsetting
  | _ =>
    simp only [settingChange, hspeed]
    rfl

theorem settingChange_of_parseSpeed_eq_error {error : ClientError} (hsetting : setting ≠ .savePath)
    (hspeed : setting.parseSpeed value = .error error) :
    settingChange setting value = .error error := by
  cases setting with
  | savePath => exact absurd rfl hsetting
  | _ =>
    simp only [settingChange, hspeed]
    rfl

theorem settingChange_savePath_of_blank (h : ∀ c ∈ value.toList, Text.isBlank c) :
    settingChange .savePath value = .error (.invalidValue "save_path" value) :=
  if_pos (Text.trim_eq_empty_iff.2 h)

theorem settingChange_savePath (h : ∃ c ∈ value.toList, ¬ Text.isBlank c) :
    settingChange .savePath value = .ok { downloadDir := some (Text.trim value) } := by
  have hne : Text.trim value ≠ "" := by
    intro heq
    obtain ⟨c, hmem, hc⟩ := h
    exact hc (Text.trim_eq_empty_iff.1 heq c hmem)
  exact if_neg hne

/-! ### Texts -/

theorem settingText_of_limit? {session : Session} {limit : SpeedLimit}
    (h : setting.limit? session = some limit) :
    settingText setting session = Text.showInt64 (Daemon.globalLimit limit) := by
  cases setting <;> cases h <;> rfl

/-- The change of a limit leaves the texts of the other settings as they are. -/
theorem settingText_applyTo_changing (h : other ≠ setting) (cut : Int64 → Int64)
    (change : LimitChange) (session : Session) :
    settingText other (((setting.changing change).mapKib cut).applyTo session) =
      settingText other session := by
  cases setting with
  | globalDownloadSpeedLimit =>
    cases other with
    | globalDownloadSpeedLimit => exact absurd rfl h
    | _ => rfl
  | globalUploadSpeedLimit =>
    cases other with
    | globalUploadSpeedLimit => exact absurd rfl h
    | _ => rfl
  | savePath => rfl

/-- A change of the path leaves the texts of the limits as they are. -/
theorem settingText_applyTo_downloadDir (h : other ≠ .savePath) (cut : Int64 → Int64)
    (path : String) (session : Session) :
    settingText other ((SessionChange.mapKib cut { downloadDir := some path }).applyTo session) =
      settingText other session := by
  cases other with
  | savePath => exact absurd rfl h
  | _ => rfl

/-- A limit that is not in force is read as zero. -/
theorem showInt64_globalLimit_of_disabled (kib : Int64) :
    Text.showInt64 (Daemon.globalLimit ⟨kib, false⟩) = "0" := by
  have hzero : (Daemon.globalLimit ⟨kib, false⟩).toInt = 0 := rfl
  rw [Text.showInt64, hzero, Text.showInt, Text.intDigits, if_neg (by decide), Text.decimalDigits,
    if_pos (by decide)]
  rfl

theorem toInt_globalLimit_of_enabled {kib : Int64} (h : 0 ≤ kib.toInt) :
    (Daemon.globalLimit ⟨kib, true⟩).toInt = min (kib.toInt * 1024) Int64.maxValue.toInt := by
  have hbytes := SpeedLimit.toInt_toBytes_of_enabled h
  have hmax : Int64.maxValue.toInt = 2 ^ 63 - 1 := rfl
  rw [Daemon.globalLimit, if_neg (by omega), hbytes]

/-! ### Reading -/

variable {σ : Type} {server : Server σ} {session : σ → Session}
  {told : SessionChange → SessionChange} {s : Cache × σ}

/-- In the state `s`, the text of a setting is `text`. -/
def Reads (server : Server σ) (s : Cache × σ) (name text : String) : Prop :=
  ∃ s', Ends server (getSetting name).run s (.ok text) s'

theorem getSetting_name (setting : Setting) : getSetting setting.name =
    perform .getSession >>= fun session => pure (settingText setting session) := by
  rw [getSetting, ofName_name]
  rfl

/-- The text of a setting is read, and the settings stay as they are. -/
theorem exists_reads (h : server.KeepsSettings session told) (setting : Setting) (s : Cache × σ) :
    ∃ s', Ends server (getSetting setting.name).run s (.ok (settingText setting (session s.2))) s' ∧
      session s'.2 = session s.2 := by
  obtain ⟨d', hrun, hsame⟩ := h.tells s.2
  refine ⟨(s.1, d'), ?_, hsame⟩
  rw [getSetting_name, ends_bind_ok_iff]
  exact ⟨session s.2, (s.1, d'), ends_perform_iff.2 ⟨rfl, hrun⟩, ends_pure_iff.2 ⟨rfl, rfl⟩⟩

theorem reads_iff (h : server.KeepsSettings session told) (setting : Setting) {text : String} :
    Reads server s setting.name text ↔ text = settingText setting (session s.2) := by
  obtain ⟨d', hrun, -⟩ := h.tells s.2
  constructor
  · rintro ⟨s', hends⟩
    rw [getSetting_name, ends_bind_ok_iff] at hends
    obtain ⟨found, s₁, hperform, hpure⟩ := hends
    have hfound := (ends_perform_iff.1 hperform).2
    rw [hrun] at hfound
    cases hfound
    exact Except.ok.inj (ends_pure_iff.1 hpure).1
  · rintro rfl
    obtain ⟨s', hends, -⟩ := exists_reads h setting s
    exact ⟨s', hends⟩

/-- Giving a setting a value succeeds from the state `s` and leaves `s'`.  The one call that is made
for it is the change. -/
def Sets (server : Server σ) (name value : String) (change : SessionChange) (s s' : Cache × σ) :
    Prop :=
  ∀ calls, Ends server.recorded (setSetting name value).run (s.1, s.2, calls) (.ok ())
    (s'.1, s'.2, calls ++ [⟨.setSession change, .ok ()⟩])

theorem exists_sets (h : server.KeepsSettings session told) {change : SessionChange}
    (hchange : settingChange setting value = .ok change) (s : Cache × σ) :
    ∃ s', Sets server setting.name value change s s' ∧
      session s'.2 = (told change).applyTo (session s.2) := by
  obtain ⟨d', hrun, hsession⟩ := h.changes s.2 change
  refine ⟨(s.1, d'), fun calls => ?_, hsession⟩
  rw [setSetting_of_accepted (ofName_name setting) hchange, ends_exclusively_iff, ends_perform_iff]
  refine ⟨rfl, ?_⟩
  change (((server (.setSession change)).run s.2).1, ((server (.setSession change)).run s.2).2,
    calls ++ [⟨.setSession change, ((server (.setSession change)).run s.2).1⟩]) = _
  rw [hrun]

/-! ### Reading back -/

/-- The settings of a daemon are read back as they were written.  What the daemon is told of a
change is left to `told`, and what becomes of a positive speed to `bytes`. -/
structure ReadsBack (server : Server σ) (session : σ → Session)
    (told : SessionChange → SessionChange) (bytes : Int → Int) : Prop where
  /-- A speed that is not positive is read as `0`.  A limit that is switched off keeps its number,
  and a positive limit is told as a positive limit that is in force. -/
  ofSpeed (s : Cache × σ) {setting : Setting} {value : String} {speed : Int64} :
    setting ≠ .savePath → setting.parseSpeed value = .ok speed →
      ∃ change s', Sets server setting.name value change s s' ∧
        Reads server s' setting.name
          (if speed.toInt ≤ 0 then "0" else Text.showInt (bytes speed.toInt)) ∧
        (∀ other ≠ setting, ∀ text,
          Reads server s' other.name text ↔ Reads server s other.name text) ∧
        (speed.toInt ≤ 0 → setting.limit? (session s'.2) =
          (setting.limit? (session s.2)).map fun limit => ⟨limit.kib, false⟩) ∧
        (0 < speed.toInt → ∃ kib : Int64, 0 < kib.toInt ∧
          setting.limitChange? (told change) = some ⟨some kib, some true⟩)
  /-- A path is trimmed. -/
  ofPath (s : Cache × σ) {value : String} : (∃ c ∈ value.toList, ¬ Text.isBlank c) →
    ∃ change s', Sets server "save_path" value change s s' ∧
      Reads server s' "save_path" (Text.trim value) ∧
      ∀ other ≠ Setting.savePath, ∀ text,
        Reads server s' other.name text ↔ Reads server s other.name text

/-- The text of a limit that was changed to a speed. -/
theorem settingText_applyTo_ofBytes (hsetting : setting ≠ .savePath) (cut : Int64 → Int64)
    (hcut : 0 < speed.toInt → 0 < (cut (SpeedLimit.ofBytes speed).kib).toInt) (session : Session) :
    settingText setting (((setting.changing (.ofBytes speed)).mapKib cut).applyTo session) =
      if speed.toInt ≤ 0 then "0" else Text.showInt
        (min ((cut (SpeedLimit.ofBytes speed).kib).toInt * 1024) Int64.maxValue.toInt) := by
  obtain ⟨limit, hlimit⟩ := exists_limit? hsetting session
  have hchanged := limit?_applyTo_changing setting cut (.ofBytes speed) session
  rw [hlimit, Option.map_some] at hchanged
  rw [settingText_of_limit? hchanged]
  by_cases hspeed : speed.toInt ≤ 0
  · rw [if_pos hspeed, LimitChange.applyTo_ofBytes_of_nonpos hspeed,
      showInt64_globalLimit_of_disabled]
  · have hpos : 0 < speed.toInt := by omega
    have hkib := toInt_globalLimit_of_enabled (Int.le_of_lt (hcut hpos))
    rw [if_neg hspeed, LimitChange.ofBytes_of_pos hpos, Text.showInt64, ← hkib]
    rfl

/-- A daemon that keeps its settings gives them back, with limits that may have been cut down. -/
theorem readsBack_of_keepsSettings {cut : Int64 → Int64} {bytes : Int → Int}
    (h : server.KeepsSettings session (SessionChange.mapKib cut))
    (hcut : ∀ speed : Int64, 0 < speed.toInt → 0 < (cut (SpeedLimit.ofBytes speed).kib).toInt)
    (hbytes : ∀ speed : Int64, 0 < speed.toInt →
      min ((cut (SpeedLimit.ofBytes speed).kib).toInt * 1024) Int64.maxValue.toInt =
        bytes speed.toInt) :
    ReadsBack server session (SessionChange.mapKib cut) bytes where
  ofSpeed s setting value speed hsetting hspeed := by
    obtain ⟨s', hsets, hsession⟩ :=
      exists_sets h (settingChange_of_parseSpeed_eq_ok hsetting hspeed) s
    refine ⟨_, s', hsets, ?_, ?_, ?_, ?_⟩
    · rw [reads_iff h setting, hsession, settingText_applyTo_ofBytes hsetting cut (hcut speed)]
      split
      · rfl
      · rw [hbytes speed (by omega)]
    · intro other hother text
      rw [reads_iff h other, reads_iff h other, hsession, settingText_applyTo_changing hother]
    · intro hnonpos
      rw [hsession, limit?_applyTo_changing]
      exact congrArg (Option.map · _) (funext (LimitChange.applyTo_ofBytes_of_nonpos hnonpos cut))
    · intro hpos
      refine ⟨_, hcut speed hpos, ?_⟩
      rw [limitChange?_changing hsetting, LimitChange.ofBytes_of_pos hpos]
      rfl
  ofPath s value hvalue := by
    obtain ⟨s', hsets, hsession⟩ := exists_sets h (settingChange_savePath hvalue) s
    refine ⟨_, s', hsets, ?_, ?_⟩
    · have hread : Reads server s' Setting.savePath.name _ := (reads_iff h .savePath).2 rfl
      rw [hsession] at hread
      exact hread
    · intro other hother text
      rw [reads_iff h other, reads_iff h other, hsession, settingText_applyTo_downloadDir hother]

/-- The number of KiB per second for a positive speed is the quotient, rounded up. -/
theorem toInt_kib_ofBytes_eq_ceil (h : 0 < speed.toInt) :
    (SpeedLimit.ofBytes speed).kib.toInt = ⌈(speed.toInt : ℚ) / 1024⌉ := by
  have hceil := Rat.ceil_intCast_div_natCast speed.toInt 1024
  push_cast at hceil
  rw [SpeedLimit.toInt_kib_ofBytes h, hceil]
  omega

/-- **Settings read back what was written.**  A name that no setting has, a speed that is no number
and a path of blank characters alone are refused with the texts that were given, before anything is
done.  Any other value is one call of the daemon, and is read back: a speed that is not positive as
`0`, any other rounded up to whole KiB and cut off at the greatest number, which is smaller if the
daemon is spoken to over a network, and a path as it is without the blank characters around it.  The
other settings stay as they are. -/
theorem setting_reads_back {τ : Type} {host : Rpc.Host τ} {endpoint : Rpc.Endpoint}
    {hosted : τ → Session} {idOf : τ → String} (hserver : server.KeepsSettings session id)
    (hhost : host.KeepsSettings endpoint hosted idOf) :
    (∀ name value, (∀ setting : Setting, setting.name ≠ name) →
      (setSetting name value).run = .done (.error (.unknownSetting name))) ∧
    (∀ (setting : Setting) value, setting ≠ .savePath →
      (∀ speed, setting.parseSpeed value ≠ .ok speed) →
      (setSetting setting.name value).run = .done (.error (.invalidValue setting.name value))) ∧
    (∀ value : String, (∀ c ∈ value.toList, Text.isBlank c) →
      (setSetting "save_path" value).run = .done (.error (.invalidValue "save_path" value))) ∧
    ReadsBack server session id
      (fun speed => min (1024 * ⌈(speed : ℚ) / 1024⌉) Int64.maxValue.toInt) ∧
    ReadsBack (host.server endpoint) (fun s => hosted s.2)
      (fun change => Rpc.changeOf (Rpc.sessionArguments change))
      (fun speed => 1024 * min ⌈(speed : ℚ) / 1024⌉ (2 ^ 31 - 1)) := by
  refine ⟨?_, ?_, ?_, ?_, ?_⟩
  · intro name value hname
    exact run_setSetting_of_unknown (ofName_of_unknown hname) value
  · intro setting value hsetting hspeed
    exact run_setSetting_of_refused (ofName_name setting)
      (settingChange_of_parseSpeed_eq_error hsetting (parseSpeed_eq_error hspeed))
  · intro value hvalue
    exact run_setSetting_of_refused (ofName_name .savePath) (settingChange_savePath_of_blank hvalue)
  · have hid : (id : SessionChange → SessionChange) = SessionChange.mapKib id :=
      funext fun change => change.mapKib_id.symm
    rw [hid] at hserver ⊢
    refine readsBack_of_keepsSettings hserver (fun speed hpos => SpeedLimit.kib_ofBytes_pos hpos) ?_
    intro speed hpos
    rw [id_eq, toInt_kib_ofBytes_eq_ceil hpos, Int.mul_comm]
  · have htold : (fun change => Rpc.changeOf (Rpc.sessionArguments change)) =
        SessionChange.mapKib Rpc.sentKib :=
      funext Rpc.changeOf_sessionArguments
    have hkeeps := hhost.server
    rw [htold] at hkeeps ⊢
    have hgreatest : Rpc.greatestSessionLimit = 2 ^ 31 - 1 := rfl
    have hmax : Int64.maxValue.toInt = 2 ^ 63 - 1 := rfl
    refine readsBack_of_keepsSettings hkeeps ?_ ?_
    · intro speed hpos
      have hkib := SpeedLimit.kib_ofBytes_pos hpos
      rw [Rpc.toInt_sentKib]
      omega
    · intro speed hpos
      have hkib := SpeedLimit.kib_ofBytes_pos hpos
      rw [toInt_kib_ofBytes_eq_ceil hpos] at hkib
      rw [Rpc.toInt_sentKib, toInt_kib_ofBytes_eq_ceil hpos]
      omega

/-! ### The greatest speed -/

/-- Some settings of a daemon. -/
def homeSession : Session := ⟨"/downloads", ⟨100, true⟩, ⟨50, false⟩⟩

/-- The greatest speed is read back from a daemon itself, and is cut down on the way over a network.
A path that is blank is refused. -/
theorem setting_reads_back_greatest :
    Daemon.settingsServer.KeepsSettings id id ∧
    Rpc.settingsHost.KeepsSettings Rpc.localEndpoint id (fun _ => "0") ∧
    (setSetting "save_path" " \t").run = .done (.error (.invalidValue "save_path" " \t")) ∧
    (∃ change s', Sets Daemon.settingsServer "global_upload_speed_limit" "9223372036854775807"
        change ({}, homeSession) s' ∧
      Reads Daemon.settingsServer s' "global_upload_speed_limit" "9223372036854775807") ∧
    ∃ change s', Sets (Rpc.settingsHost.server Rpc.localEndpoint) "global_upload_speed_limit"
        "9223372036854775807" change ({}, {}, homeSession) s' ∧
      Reads (Rpc.settingsHost.server Rpc.localEndpoint) s' "global_upload_speed_limit"
        "2199023254528" := by
  have hserver := Daemon.settingsServer_keepsSettings
  have hhost := Rpc.settingsHost_keepsSettings Rpc.localEndpoint
  obtain ⟨-, -, hblank, hplain, hremote⟩ := setting_reads_back hserver hhost
  have hread : Text.readInt64? (Text.trimChars "9223372036854775807".toList) =
      some Int64.maxValue := by
    decide +kernel
  have hspeed : globalUploadSpeedLimit.parseSpeed "9223372036854775807" = .ok Int64.maxValue := by
    rw [parseSpeed, hread]
  have hall : " \t".toList.all Text.isBlank := by decide
  refine ⟨hserver, hhost, hblank _ (List.all_eq_true.1 hall), ?_, ?_⟩
  · obtain ⟨change, s', hsets, hreads, -⟩ := hplain.ofSpeed ({}, homeSession) (by decide) hspeed
    have htext : (if Int64.maxValue.toInt ≤ 0 then "0" else Text.showInt
        (min (1024 * ⌈(Int64.maxValue.toInt : ℚ) / 1024⌉) Int64.maxValue.toInt)) =
          "9223372036854775807" := by
      decide +kernel
    exact ⟨change, s', hsets, htext ▸ hreads⟩
  · obtain ⟨change, s', hsets, hreads, -⟩ :=
      hremote.ofSpeed ({}, {}, homeSession) (by decide) hspeed
    have htext : (if Int64.maxValue.toInt ≤ 0 then "0" else Text.showInt
        (1024 * min ⌈(Int64.maxValue.toInt : ℚ) / 1024⌉ (2 ^ 31 - 1))) = "2199023254528" := by
      decide +kernel
    exact ⟨change, s', hsets, htext ▸ hreads⟩

end Client

end TorrentRemote
