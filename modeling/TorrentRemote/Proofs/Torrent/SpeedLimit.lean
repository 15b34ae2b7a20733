import TorrentRemote.Torrent.SpeedLimit
import Mathlib.Algebra.Group.Int.Defs
import Mathlib.Order.Bounds.Defs

/-!
# Rounding of speed limits

A limit that goes to the daemon and comes back is rounded up to a multiple of 1024.  Rounding up is
the lower half of an adjunction: the daemon's limit is at most some KiB exactly if the client's is
at most as many bytes.  The multiple that exceeds the 64-bit integers is cut off, and yet rounding a
second time changes nothing.

## Main definitions

* `SpeedLimit.IsRoundedUp` : what becomes of a limit in bytes per second.
* `SpeedLimit.inForce?` : the limit in force, in KiB per second.
* `SpeedLimit.StandsFor` : the daemon's limit for a positive one in bytes per second.
* `SpeedLimit.IsBelow` : the order of limits.

## Main results

* `SpeedLimit.isRoundedUp_toBytes_ofBytes` : what a limit comes back as.
* `SpeedLimit.ofBytes_toBytes` : a limit of whole KiB goes back to the daemon as it was.
* `SpeedLimit.standsFor_ofBytes` : rounding up as an adjunction.
* `SpeedLimit.conversions_adjoin` : the laws of both conversions together.
-/

namespace TorrentRemote.SpeedLimit

/-- The limit `bytes` becomes `limit`: -1 if it is zero or less, and else the least multiple of
1024 that is not smaller, or the greatest 64-bit integer if this multiple exceeds it. -/
def IsRoundedUp (bytes limit : Int64) : Prop :=
  (bytes.toInt ≤ 0 → limit = -1) ∧
    (0 < bytes.toInt → ∃ n : Int, IsLeast {m | 1024 ∣ m ∧ bytes.toInt ≤ m} n ∧
      limit.toInt = min n Int64.maxValue.toInt)

theorem isLeast_roundUp (n : Int) :
    IsLeast {m | 1024 ∣ m ∧ n ≤ m} ((n + 1023) / 1024 * 1024) := by
  refine ⟨⟨Int.dvd_mul_left .., by omega⟩, ?_⟩
  rintro m ⟨⟨k, rfl⟩, hle⟩
  omega

theorem toInt_ofIntClamp_eq (n : Int) :
    (Int64.ofIntClamp n).toInt =
      max Int64.minValue.toInt (min n Int64.maxValue.toInt) := by
  have hle : Int64.minValue.toInt ≤ Int64.maxValue.toInt := by decide
  by_cases hmin : Int64.minValue.toInt ≤ n
  · by_cases hmax : n ≤ Int64.maxValue.toInt
    · rw [Int64.toInt_ofIntClamp hmin hmax]
      omega
    · rw [Int64.ofIntClamp, dif_pos hmin, dif_neg hmax]
      omega
  · rw [Int64.ofIntClamp, dif_neg hmin]
    omega

/-- A number that is not too small is cut off at the greatest 64-bit integer. -/
theorem toInt_ofIntClamp_of_nonneg {n : Int} (h : 0 ≤ n) :
    (Int64.ofIntClamp n).toInt = min n Int64.maxValue.toInt := by
  have hmin : Int64.minValue.toInt ≤ 0 := by decide
  have hmax : 0 ≤ Int64.maxValue.toInt := by decide
  rw [toInt_ofIntClamp_eq]
  omega

theorem ofBytes_of_nonpos {bytes : Int64} (h : bytes.toInt ≤ 0) : ofBytes bytes = ⟨0, false⟩ :=
  if_pos h

theorem ofBytes_of_pos {bytes : Int64} (h : 0 < bytes.toInt) :
    ofBytes bytes = ⟨Int64.ofInt ((bytes.toInt + 1023) / 1024), true⟩ :=
  if_neg (by omega)

/-- The number of KiB per second for a positive limit is not cut off. -/
theorem exists_ofBytes_eq {bytes : Int64} (h : 0 < bytes.toInt) :
    ∃ kib : Int64, ofBytes bytes = ⟨kib, true⟩ ∧ kib.toInt = (bytes.toInt + 1023) / 1024 := by
  have hlt := bytes.toInt_lt
  exact ⟨_, ofBytes_of_pos h, Int64.toInt_ofInt_of_le (by omega) (by omega)⟩

theorem toInt_kib_ofBytes {bytes : Int64} (h : 0 < bytes.toInt) :
    (ofBytes bytes).kib.toInt = (bytes.toInt + 1023) / 1024 := by
  obtain ⟨kib, heq, hkib⟩ := exists_ofBytes_eq h
  rw [heq, hkib]

theorem kib_ofBytes_pos {bytes : Int64} (h : 0 < bytes.toInt) : 0 < (ofBytes bytes).kib.toInt := by
  rw [toInt_kib_ofBytes h]
  omega

theorem toBytes_of_disabled (kib : Int64) : toBytes ⟨kib, false⟩ = -1 := rfl

theorem toInt_toBytes_of_enabled {kib : Int64} (h : 0 ≤ kib.toInt) :
    (toBytes ⟨kib, true⟩).toInt = min (kib.toInt * 1024) Int64.maxValue.toInt :=
  toInt_ofIntClamp_of_nonneg (Int.mul_nonneg h (by decide))

/-- A limit is rounded up on its way to the daemon, and what comes back is no further off. -/
theorem isRoundedUp_toBytes_ofBytes (bytes : Int64) :
    IsRoundedUp bytes (ofBytes bytes).toBytes := by
  constructor
  · intro hnonpos
    rw [ofBytes_of_nonpos hnonpos, toBytes_of_disabled]
  · intro hpos
    have hkib := toInt_kib_ofBytes hpos
    have hnonneg := Int.le_of_lt (kib_ofBytes_pos hpos)
    refine ⟨_, isLeast_roundUp bytes.toInt, ?_⟩
    rw [ofBytes_of_pos hpos] at hkib hnonneg ⊢
    rw [toInt_toBytes_of_enabled hnonneg, hkib]

/-- The limit in force, in KiB per second. -/
def inForce? (limit : SpeedLimit) : Option Int64 := if limit.enabled then some limit.kib else none

/-- A positive limit that the daemon tells goes back to it as it was.  The greatest one is cut off
by a single byte on its way, which rounding up makes good. -/
theorem ofBytes_toBytes {kib : Int64} (hpos : 0 < kib.toInt) (hle : kib.toInt ≤ 2 ^ 53) :
    ofBytes (toBytes ⟨kib, true⟩) = ⟨kib, true⟩ := by
  have hmax : Int64.maxValue.toInt = 2 ^ 63 - 1 := rfl
  have hbytes := toInt_toBytes_of_enabled (Int.le_of_lt hpos)
  have hbytespos : 0 < (toBytes ⟨kib, true⟩).toInt := by omega
  have hkib : (ofBytes (toBytes ⟨kib, true⟩)).kib = kib := by
    rw [← Int64.toInt_inj, toInt_kib_ofBytes hbytespos]
    omega
  rw [ofBytes_of_pos hbytespos] at hkib ⊢
  exact congrArg (SpeedLimit.mk · true) hkib

/-! ### Rounding up as an adjunction -/

/-- The limit of the daemon that stands for a positive limit in bytes per second.  It is in force,
it is the lower adjoint of counting whole KiB as bytes, and read again it exceeds what was asked by
less than a KiB. -/
structure StandsFor (limit : SpeedLimit) (bytes : Int64) : Prop where
  enabled : limit.enabled
  one_le_kib : 1 ≤ limit.kib.toInt
  kib_le_iff (k : Int) : limit.kib.toInt ≤ k ↔ bytes.toInt ≤ 1024 * k
  toBytes_eq : limit.toBytes.toInt = min (1024 * limit.kib.toInt) Int64.maxValue.toInt
  le_toBytes : bytes.toInt ≤ limit.toBytes.toInt
  toBytes_le : limit.toBytes.toInt ≤ bytes.toInt + 1023

theorem enabled_ofBytes_iff {bytes : Int64} : (ofBytes bytes).enabled ↔ 0 < bytes.toInt := by
  by_cases hpos : 0 < bytes.toInt
  · simp only [ofBytes_of_pos hpos, hpos]
  · simp only [ofBytes_of_nonpos (Int.not_lt.1 hpos), hpos, Bool.false_eq_true]

theorem standsFor_ofBytes {bytes : Int64} (h : 0 < bytes.toInt) :
    (ofBytes bytes).StandsFor bytes := by
  obtain ⟨kib, heq, hkib⟩ := exists_ofBytes_eq h
  have hlt := bytes.toInt_lt
  have hmax : Int64.maxValue.toInt = 2 ^ 63 - 1 := rfl
  have hnonneg : 0 ≤ kib.toInt := by omega
  have hbytes := toInt_toBytes_of_enabled hnonneg
  rw [heq]
  exact
    { enabled := rfl
      one_le_kib := by dsimp only; omega
      kib_le_iff := fun k => by dsimp only; omega
      toBytes_eq := by rw [hbytes, Int.mul_comm]
      le_toBytes := by omega
      toBytes_le := by omega }

/-- Rounding a second time changes nothing, even where the rounded limit is cut off. -/
theorem ofBytes_toBytes_ofBytes (bytes : Int64) :
    ofBytes (ofBytes bytes).toBytes = ofBytes bytes := by
  by_cases hpos : 0 < bytes.toInt
  · obtain ⟨kib, heq, hkib⟩ := exists_ofBytes_eq hpos
    have hlt := bytes.toInt_lt
    rw [heq]
    exact ofBytes_toBytes (by omega) (by omega)
  · rw [ofBytes_of_nonpos (Int.not_lt.1 hpos)]
    rfl

/-! ### The order of limits -/

/-- A limit with at most as many KiB as another, which is in force if the first one is. -/
def IsBelow (limit other : SpeedLimit) : Prop :=
  limit.kib ≤ other.kib ∧ (limit.enabled → other.enabled)

theorem isBelow_ofBytes {bytes bytes' : Int64} (h : bytes ≤ bytes') :
    IsBelow (ofBytes bytes) (ofBytes bytes') := by
  rw [Int64.le_iff_toInt_le] at h
  constructor
  · rw [Int64.le_iff_toInt_le]
    by_cases hpos : 0 < bytes.toInt
    · rw [toInt_kib_ofBytes hpos, toInt_kib_ofBytes (by omega)]
      omega
    · rw [ofBytes_of_nonpos (Int.not_lt.1 hpos)]
      by_cases hpos' : 0 < bytes'.toInt
      · exact Int.le_of_lt (kib_ofBytes_pos hpos')
      · exact Int.le_of_eq (by rw [ofBytes_of_nonpos (Int.not_lt.1 hpos')])
  · rw [enabled_ofBytes_iff, enabled_ofBytes_iff]
    omega

theorem toBytes_le_toBytes {limit other : SpeedLimit} (h : IsBelow limit other)
    (hswitch : limit.enabled = other.enabled ∨ 0 ≤ other.kib.toInt) :
    limit.toBytes ≤ other.toBytes := by
  obtain ⟨kib, enabled⟩ := limit
  obtain ⟨kib', enabled'⟩ := other
  obtain ⟨hkib, henabled⟩ := h
  rw [Int64.le_iff_toInt_le] at hkib ⊢
  dsimp only at hkib henabled hswitch
  cases enabled with
  | false =>
    cases enabled' with
    | false => exact Int.le_of_eq (by rw [toBytes_of_disabled, toBytes_of_disabled])
    | true =>
      have hnonneg : 0 ≤ kib'.toInt := hswitch.resolve_left Bool.false_ne_true
      have hmax : 0 ≤ Int64.maxValue.toInt := by decide
      have hnone : (-1 : Int64).toInt = -1 := rfl
      rw [toBytes_of_disabled, toInt_toBytes_of_enabled hnonneg]
      omega
  | true =>
    obtain rfl : enabled' = true := henabled rfl
    rw [toBytes, if_pos rfl, toBytes, if_pos rfl, toInt_ofIntClamp_eq, toInt_ofIntClamp_eq]
    dsimp only
    omega

/-- **The conversions of limits.**  A positive limit stands for the least whole number of KiB that
is not below it, which read again exceeds it by less than a KiB; every other limit is none.
Converting the limit that was read again gives the same as the first time, near the greatest 64-bit
integers too.  Both ways keep the order, the one from the daemon unless a negative limit comes into
force, and whole KiB whose bytes are a 64-bit integer come back as they were. -/
theorem conversions_adjoin :
    (∀ bytes : Int64,
      (0 < bytes.toInt → (ofBytes bytes).StandsFor bytes) ∧
      (bytes.toInt ≤ 0 → ofBytes bytes = ⟨0, false⟩ ∧ (ofBytes bytes).toBytes = -1) ∧
      ofBytes (ofBytes bytes).toBytes = ofBytes bytes) ∧
    (∀ bytes bytes' : Int64, bytes ≤ bytes' → IsBelow (ofBytes bytes) (ofBytes bytes')) ∧
    (∀ limit other : SpeedLimit, IsBelow limit other →
      limit.enabled = other.enabled ∨ 0 ≤ other.kib.toInt → limit.toBytes ≤ other.toBytes) ∧
    ∀ kib : Int64, 1 ≤ kib.toInt → kib.toInt ≤ Int64.maxValue.toInt / 1024 →
      ofBytes (toBytes ⟨kib, true⟩) = ⟨kib, true⟩ := by
  refine ⟨fun bytes => ⟨standsFor_ofBytes, fun hnonpos => ?_, ofBytes_toBytes_ofBytes bytes⟩,
    fun _ _ => isBelow_ofBytes, fun _ _ => toBytes_le_toBytes, fun kib hpos hle => ?_⟩
  · rw [ofBytes_of_nonpos hnonpos]
    exact ⟨rfl, rfl⟩
  · have hmax : Int64.maxValue.toInt = 2 ^ 63 - 1 := rfl
    exact ofBytes_toBytes hpos (by omega)

/-- The greatest limit is cut off by one byte when it is read again, and yet stands for the same
number of KiB; so do the 1022 numbers of bytes below it. -/
theorem conversions_adjoin_greatest :
    (ofBytes Int64.maxValue).toBytes = Int64.maxValue ∧
    ofBytes (ofBytes Int64.maxValue).toBytes = ⟨9007199254740992, true⟩ ∧
    (∀ bytes : Int64, 9223372036854774785 ≤ bytes → bytes ≤ Int64.maxValue →
      IsBelow ⟨9007199254740992, true⟩ (ofBytes bytes) ∧
      IsBelow (ofBytes bytes) ⟨9007199254740992, true⟩) ∧
    ofBytes (toBytes ⟨9007199254740991, true⟩) = ⟨9007199254740991, true⟩ := by
  obtain ⟨hbytes, hmono, -, hkib⟩ := conversions_adjoin
  obtain ⟨hpos, -, hstable⟩ := hbytes Int64.maxValue
  have hleast : ofBytes 9223372036854774785 = ⟨9007199254740992, true⟩ := by decide
  have hgreatest : ofBytes Int64.maxValue = ⟨9007199254740992, true⟩ := by decide
  refine ⟨?_, hstable.trans hgreatest, fun bytes hle hge => ⟨?_, ?_⟩,
    hkib 9007199254740991 (by decide) (by decide)⟩
  · rw [← Int64.toInt_inj, (hpos (by decide)).toBytes_eq]
    decide
  · exact hleast ▸ hmono _ _ hle
  · exact hgreatest ▸ hmono _ _ hge

end TorrentRemote.SpeedLimit
