import TorrentRemote.Daemon.Conversion
import TorrentRemote.Display.Icon
import TorrentRemote.Proofs.Text.Decimal
import TorrentRemote.Proofs.Torrent.SpeedLimit

/-!
# Progress of torrents

How much of a torrent is there, as its sizes, its state, its dates and its sign tell.  All of them
come from numbers of the daemon that nothing has checked: sizes may be negative, and the status code
may be any number.  The torrent that is made of them never contradicts itself.

## Main definitions

* `Display.IsPercentage` : a share in whole percent, rounded down.
* `Daemon.TorrentRecord.IsConsistent` : a torrent that agrees with its record and with itself.

## Main results

* `Display.IsPercentage.eq_hundred_iff` : only the whole is 100 %.
* `Daemon.TorrentRecord.toTorrent_isConsistent` : what a client makes of a record is consistent.
-/

namespace TorrentRemote

/-! ### Percentages -/

namespace Display

/-- The share of a part in the whole is `p` percent, rounded down. -/
def IsPercentage (p : Nat) (part whole : Int) : Prop :=
  p * whole ≤ 100 * part ∧ 100 * part < (p + 1) * whole

section

variable {p : Nat} {part whole : Int}

theorem IsPercentage.le_hundred (h : IsPercentage p part whole) (hwhole : 0 < whole)
    (hle : part ≤ whole) : p ≤ 100 := by
  have hmul : (p : Int) * whole ≤ 100 * whole := Int.le_trans h.1 (by omega)
  have hp : (p : Int) ≤ 100 := Int.le_of_mul_le_mul_right hmul hwhole
  omega

/-- Only the whole is 100 percent. -/
theorem IsPercentage.eq_hundred_iff (h : IsPercentage p part whole) (hwhole : 0 < whole)
    (hle : part ≤ whole) : p = 100 ↔ part = whole := by
  constructor
  · rintro rfl
    have hlow := h.1
    omega
  · rintro rfl
    have hp : (100 : Int) < p + 1 := Int.lt_of_mul_lt_mul_right h.2 (Int.le_of_lt hwhole)
    have hhundred := h.le_hundred hwhole hle
    omega

theorem isPercentage_div (part : Nat) {whole : Nat} (h : 0 < whole) :
    IsPercentage (part * 100 / whole) part whole := by
  have hlow : part * 100 / whole * whole ≤ part * 100 := Nat.div_mul_le_self ..
  have hhigh : part * 100 < part * 100 / whole * whole + whole := Nat.lt_div_mul_add h
  rw [IsPercentage, Int.mul_comm 100, Int.add_mul, Int.one_mul]
  exact_mod_cast And.intro hlow hhigh

end

variable {torrent : Torrent}

theorem exists_percent?_eq_some (torrent : Torrent) (hsize : 0 < torrent.size.toInt)
    (hnonneg : 0 ≤ torrent.sizeCompleted.toInt)
    (hle : torrent.sizeCompleted.toInt ≤ torrent.size.toInt) :
    ∃ p, percent? torrent = some p ∧
      IsPercentage p torrent.sizeCompleted.toInt torrent.size.toInt := by
  have hwhole : 0 < torrent.size.toInt.toNat := by omega
  have hshare := isPercentage_div torrent.sizeCompleted.toInt.toNat hwhole
  rw [Int.toNat_of_nonneg hnonneg, Int.toNat_of_nonneg (Int.le_of_lt hsize)] at hshare
  refine ⟨_, ?_, hshare⟩
  rw [percent?, if_neg (Int.not_le.2 hsize), Nat.min_eq_right (hshare.le_hundred hsize hle)]

theorem icon_of_percent?_eq_some {p : Nat} (hstate : torrent.state = .downloading)
    (hpercent : percent? torrent = some p) : icon torrent = "↓" ++ Text.showNat p ++ "%" := by
  simp only [icon, hstate, hpercent]

theorem icon_of_nonpos (hstate : torrent.state = .downloading) (hsize : torrent.size.toInt ≤ 0) :
    icon torrent = "↓?%" := by
  simp only [icon, hstate, percent?, if_pos hsize]

/-- No percentage looks like that of a torrent whose size is not known. -/
theorem percentage_ne_unknown (p : Nat) : "↓" ++ Text.showNat p ++ "%" ≠ "↓?%" := by
  intro h
  have hchars : '↓' :: (Text.decimalDigits p ++ ['%']) = ['↓', '?', '%'] := by
    simpa [Text.showNat] using congrArg String.toList h
  have hmem : '?' ∈ Text.decimalDigits p := by
    cases hdigits : Text.decimalDigits p with
    | nil => exact absurd hdigits (Text.decimalDigits_ne_nil p)
    | cons c cs =>
      rw [hdigits] at hchars
      simp_all
  exact absurd (Text.isDigit_of_mem_decimalDigits hmem) (by decide)

end Display

/-! ### Torrents -/

namespace Daemon

theorem toInt_max (a b : Int64) : (max a b).toInt = max a.toInt b.toInt := by
  have hdef : max a b = if a ≤ b then b else a := rfl
  simp only [hdef, apply_ite Int64.toInt, Int64.le_iff_toInt_le, Int.max_def]

theorem toInt_min (a b : Int64) : (min a b).toInt = min a.toInt b.toInt := by
  have hdef : min a b = if a ≤ b then a else b := rfl
  simp only [hdef, apply_ite Int64.toInt, Int64.le_iff_toInt_le, Int.min_def]

theorem stateOf_eq_completed_iff {status : Int64} {complete : Bool} :
    stateOf status complete = .completed ↔ status = 0 ∧ complete := by
  by_cases hstatus : status = 0
  · cases complete <;> simp [stateOf, hstatus]
  · rw [stateOf, if_neg hstatus]
    split_ifs <;> simp [hstatus]

namespace TorrentRecord

variable (record : TorrentRecord)

theorem isComplete_iff : record.isComplete ↔ 0 < record.size ∧ record.leftUntilDone ≤ 0 := by
  simp only [isComplete, Bool.and_eq_true, decide_eq_true_eq]

theorem size_nonneg : 0 ≤ record.size.toInt := by
  rw [size, toInt_max]
  exact Int.le_max_left ..

theorem sizeCompleted_nonneg : 0 ≤ record.sizeCompleted.toInt := by
  rw [sizeCompleted, toInt_max]
  exact Int.le_max_left ..

theorem sizeCompleted_le_size : record.sizeCompleted.toInt ≤ record.size.toInt := by
  rw [sizeCompleted, toInt_max, toInt_min]
  exact Int.max_le.2 ⟨record.size_nonneg, Int.min_le_right ..⟩

/-- As long as the 64-bit difference does not wrap around, all of a torrent is there exactly if
nothing is left. -/
theorem sizeCompleted_eq_size_iff
    (hfits : ∃ rest : Int64, rest.toInt = record.size.toInt - record.leftUntilDone.toInt)
    (h : 0 < record.size.toInt) :
    record.sizeCompleted.toInt = record.size.toInt ↔ record.leftUntilDone.toInt ≤ 0 := by
  obtain ⟨rest, hrest⟩ := hfits
  have hsub : (record.size - record.leftUntilDone).toInt =
      record.size.toInt - record.leftUntilDone.toInt := by
    rw [Int64.toInt_sub, ← hrest, Int64.toInt_bmod]
  have hzero : (0 : Int64).toInt = 0 := Int64.toInt_zero
  rw [sizeCompleted, toInt_max, toInt_min, hsub]
  omega

/-- The sign of a torrent shows how much of it is there, as far as its size is known, and all of it
exactly if nothing is left. -/
def ShowsProgress (record : TorrentRecord) (torrent : Torrent) : Prop :=
  (Display.icon torrent = "↓?%" ↔ torrent.size = 0) ∧
    (torrent.size ≠ 0 → ∃ p : Nat, Display.icon torrent = "↓" ++ Text.showNat p ++ "%" ∧
      Display.IsPercentage p torrent.sizeCompleted.toInt torrent.size.toInt ∧ p ≤ 100 ∧
      (p = 100 ↔ record.leftUntilDone.toInt ≤ 0))

/-- A torrent that agrees with the record of the daemon and with itself. -/
structure IsConsistent (record : TorrentRecord) (torrent : Torrent) : Prop where
  size_eq : torrent.size = max 0 record.sizeWhenDone
  /-- What is there, reckoned in 64-bit integers. -/
  sizeCompleted_eq : torrent.sizeCompleted =
    max 0 (min (torrent.size - record.leftUntilDone) torrent.size)
  zero_le : 0 ≤ torrent.sizeCompleted
  le_size : torrent.sizeCompleted ≤ torrent.size
  completed_iff : torrent.state = .completed ↔
    record.status = 0 ∧ 0 < torrent.size ∧ record.leftUntilDone ≤ 0
  all_there : torrent.state = .completed →
    torrent.sizeCompleted = torrent.size ∧ 0 < torrent.size
  completedTime_eq : torrent.completedTime =
    if torrent.state = .completed then record.doneDate else 0
  progress : torrent.state = .downloading → record.ShowsProgress torrent

theorem showsProgress_toTorrent
    (hfits : ∃ rest : Int64, rest.toInt = record.size.toInt - record.leftUntilDone.toInt)
    (hstate : record.toTorrent.state = .downloading) : record.ShowsProgress record.toTorrent := by
  have hsize : record.toTorrent.size = record.size := rfl
  have hcompleted : record.toTorrent.sizeCompleted = record.sizeCompleted := rfl
  have hle := record.sizeCompleted_le_size
  have hunknown : record.toTorrent.size = 0 ↔ record.size.toInt = 0 := by
    rw [hsize, ← Int64.toInt_inj, Int64.toInt_zero]
  rcases record.size_nonneg.eq_or_lt with hzero | hpos
  · exact ⟨iff_of_true (Display.icon_of_nonpos hstate hzero.ge) (hunknown.2 hzero.symm),
      fun hne => absurd (hunknown.2 hzero.symm) hne⟩
  · have hknown : record.toTorrent.size ≠ 0 := mt hunknown.1 hpos.ne'
    obtain ⟨p, hpercent, hshare⟩ :=
      Display.exists_percent?_eq_some record.toTorrent hpos record.sizeCompleted_nonneg hle
    have hicon := Display.icon_of_percent?_eq_some hstate hpercent
    refine ⟨iff_of_false (hicon ▸ Display.percentage_ne_unknown p) hknown,
      fun _ => ⟨p, hicon, hshare, hshare.le_hundred hpos hle, ?_⟩⟩
    rw [hshare.eq_hundred_iff hpos hle, hcompleted, hsize,
      record.sizeCompleted_eq_size_iff hfits hpos]

/-- **Torrents agree with themselves.**  Whatever numbers the daemon tells of a torrent, as long as
the difference of its size and of what is left is a 64-bit integer: what is there is between nothing
and the size; the torrent is complete exactly if it is stopped, has a size and nothing is left, and
then all of it is there; only a complete torrent has a date of completion; and while it is being
downloaded, its sign shows the whole percentage that is there, which is 100 exactly if nothing is
left. -/
theorem toTorrent_isConsistent
    (hfits : ∃ rest : Int64, rest.toInt = record.size.toInt - record.leftUntilDone.toInt) :
    record.IsConsistent record.toTorrent := by
  have hstate : record.toTorrent.state = .completed ↔
      record.status = 0 ∧ 0 < record.toTorrent.size ∧ record.leftUntilDone ≤ 0 :=
    stateOf_eq_completed_iff.trans (and_congr_right' record.isComplete_iff)
  refine
    { size_eq := rfl
      sizeCompleted_eq := rfl
      zero_le := Int64.le_iff_toInt_le.2 record.sizeCompleted_nonneg
      le_size := Int64.le_iff_toInt_le.2 record.sizeCompleted_le_size
      completed_iff := hstate
      all_there := fun h => ?_
      completedTime_eq := rfl
      progress := record.showsProgress_toTorrent hfits }
  obtain ⟨-, hpos, hleft⟩ := hstate.1 h
  refine ⟨Int64.toInt_inj.1 ?_, hpos⟩
  exact (record.sizeCompleted_eq_size_iff hfits (Int64.lt_iff_toInt_lt.1 hpos)).2
    (Int64.le_iff_toInt_le.1 hleft)

/-- A torrent of the greatest size that is being verified, of which a single byte is left. -/
def almostCompleteRecord : TorrentRecord :=
  ⟨"ab", "Film", 2, 0, 1700000500, [], Int64.maxValue, 1, 0, 0, 0, 0, ⟨0, false⟩, ⟨0, false⟩, []⟩

/-- A single byte that is left keeps a torrent from showing 100 percent. -/
theorem toTorrent_isConsistent_almostComplete :
    (∃ rest : Int64, rest.toInt =
      almostCompleteRecord.size.toInt - almostCompleteRecord.leftUntilDone.toInt) ∧
    almostCompleteRecord.toTorrent.completedTime = 0 ∧
    almostCompleteRecord.toTorrent.sizeCompleted = Int64.maxValue - 1 ∧
    ∃ p < 100, Display.icon almostCompleteRecord.toTorrent = "↓" ++ Text.showNat p ++ "%" := by
  have hfits : ∃ rest : Int64, rest.toInt =
      almostCompleteRecord.size.toInt - almostCompleteRecord.leftUntilDone.toInt :=
    ⟨Int64.maxValue - 1, by decide⟩
  have hconsistent := toTorrent_isConsistent almostCompleteRecord hfits
  have hdownloading : almostCompleteRecord.toTorrent.state = .downloading := by decide
  obtain ⟨-, hprogress⟩ := hconsistent.progress hdownloading
  obtain ⟨p, hicon, -, hle, hall⟩ := hprogress (by decide)
  have hnotall : p ≠ 100 := mt hall.1 (by decide)
  refine ⟨hfits, ?_, ?_, p, by omega, hicon⟩
  · rw [hconsistent.completedTime_eq, if_neg (by rw [hdownloading]; decide)]
  · rw [hconsistent.sizeCompleted_eq, hconsistent.size_eq]
    decide

end TorrentRecord

end Daemon

end TorrentRemote
