import TorrentRemote.Setting
import TorrentRemote.Proofs.Text.Blank

/-!
# Speeds as texts

A speed is a decimal number in range, with a sign or without, and blank characters may surround it.
Leading zeros do not matter, since the range is one of values.  All other texts are refused, and the
refusal tells the text as it was given.

## Main definitions

* `Setting.IsSpeed` : the texts of speeds, and what they stand for.

## Main results

* `Setting.parseSpeed_eq_ok_iff`, `Setting.parseSpeed_eq_error_iff` : which texts are accepted.
* `Setting.parseSpeed_showInt64` : the digits of a speed are read as that speed.
* `Setting.parseSpeed_meets_grammar` : all of this together.
-/

namespace TorrentRemote.Setting

open Text (IsDigits IsSign digitsNumber isBlank)

variable {setting : Setting} {value : String} {speed : Int64} {e : ClientError}

/-- The text of a speed and the number that it stands for: blank characters, a sign or none, one or
more digits, and blank characters. -/
inductive IsSpeed : List Char → Int → Prop
  | between {left sign digits right : List Char} {factor : Int} (hleft : ∀ c ∈ left, isBlank c)
      (hsign : IsSign sign factor) (hdigits : IsDigits digits) (hright : ∀ c ∈ right, isBlank c) :
      IsSpeed (left ++ (sign ++ digits) ++ right) (factor * digitsNumber digits)

/-! ### Reading -/

theorem not_isBlank_of_isSign {sign : List Char} {factor : Int} (h : IsSign sign factor) :
    ∀ c ∈ sign, ¬ isBlank c := by
  cases h with
  | none => exact fun _ hc => absurd hc List.not_mem_nil
  | plus => exact List.forall_mem_singleton.2 (by decide)
  | minus => exact List.forall_mem_singleton.2 (by decide)

/-- The texts of speeds are those that are integers after trimming, since neither signs nor digits
are blank. -/
theorem isSpeed_iff {cs : List Char} {n : Int} :
    IsSpeed cs n ↔ Text.readInt? (Text.trimChars cs) = some n := by
  rw [Text.readInt?_eq_some_iff_sign_append]
  constructor
  · rintro ⟨hleft, hsign, hdigits, hright⟩
    refine ⟨_, _, _, hsign, hdigits, Text.trimChars_between hleft hright fun c hc => ?_, rfl⟩
    rcases List.mem_append.1 hc with hc | hc
    · exact not_isBlank_of_isSign hsign c hc
    · exact Text.not_isBlank_of_isDigit (hdigits.2 c hc)
  · rintro ⟨sign, factor, digits, hsign, hdigits, hword, rfl⟩
    obtain ⟨left, right, hleft, hright, hcs⟩ := Text.exists_eq_append_trimChars cs
    rw [hcs, hword]
    exact .between hleft hsign hdigits hright

theorem parseSpeed_eq_ok_iff :
    setting.parseSpeed value = .ok speed ↔ IsSpeed value.toList speed.toInt := by
  rw [isSpeed_iff, parseSpeed]
  have hread : Text.readInt64? (Text.trimChars value.toList) = some speed ↔
      Text.readInt? (Text.trimChars value.toList) = some speed.toInt := by
    simp only [Text.readInt64?, Option.bind_eq_some_iff, Text.toInt64?_eq_some_iff,
      exists_eq_right]
  rw [← hread]
  split <;> simp [*]

theorem parseSpeed_eq_error (h : ∀ speed, setting.parseSpeed value ≠ .ok speed) :
    setting.parseSpeed value = .error (.invalidValue setting.name value) := by
  unfold parseSpeed at h ⊢
  split at h
  case h_1 speed _ => exact absurd rfl (h speed)
  case h_2 => rfl

/-- A text is refused if it is not that of a speed, or that of a speed out of range. -/
theorem parseSpeed_eq_error_iff : setting.parseSpeed value = .error e ↔
    e = .invalidValue setting.name value ∧
      ∀ n, IsSpeed value.toList n → n < -2 ^ 63 ∨ 2 ^ 63 - 1 < n := by
  constructor
  · intro h
    have hnone : ∀ speed, setting.parseSpeed value ≠ .ok speed := fun speed hspeed =>
      nomatch h.symm.trans hspeed
    refine ⟨Except.error.inj (h.symm.trans (parseSpeed_eq_error hnone)), fun n hn => ?_⟩
    -- A number in range would have been accepted.
    by_contra hrange
    have hinside : -2 ^ 63 ≤ n ∧ n < 2 ^ 63 := by omega
    refine hnone (Int64.ofInt n) (parseSpeed_eq_ok_iff.2 ?_)
    rwa [Int64.toInt_ofInt_of_le hinside.1 hinside.2]
  · rintro ⟨rfl, hout⟩
    refine parseSpeed_eq_error fun speed hspeed => ?_
    have hlow : -2 ^ 63 ≤ speed.toInt := speed.le_toInt
    have hhigh : speed.toInt < 2 ^ 63 := speed.toInt_lt
    have hrange := hout _ (parseSpeed_eq_ok_iff.1 hspeed)
    omega

theorem parseSpeed_showInt64 (setting : Setting) (speed : Int64) :
    setting.parseSpeed (Text.showInt64 speed) = .ok speed := by
  rw [Setting.parseSpeed, Text.showInt64, Text.showInt, String.toList_ofList,
    Text.trimChars_intDigits, Text.readInt64?_intDigits]

/-- **Speeds are read by their grammar.**  A text is read as a speed exactly if it consists of blank
characters, a sign or none, one or more digits and blank characters again, and the number that the
sign and the digits stand for is that speed.  All other texts, among them those of numbers out of
range, are refused with the name of the setting and the whole text.  The decimal text of every speed
is read as that speed. -/
theorem parseSpeed_meets_grammar (setting : Setting) (value : String) :
    (∀ speed : Int64, setting.parseSpeed value = .ok speed ↔ IsSpeed value.toList speed.toInt) ∧
    (∀ e, setting.parseSpeed value = .error e ↔ e = .invalidValue setting.name value ∧
      ∀ n, IsSpeed value.toList n → n < -2 ^ 63 ∨ 2 ^ 63 - 1 < n) ∧
    ∀ speed : Int64, setting.parseSpeed (Text.showInt64 speed) = .ok speed :=
  ⟨fun _ => parseSpeed_eq_ok_iff, fun _ => parseSpeed_eq_error_iff, parseSpeed_showInt64 setting⟩

example : globalUploadSpeedLimit.parseSpeed "\u3000-0009223372036854775808\n" =
    .ok Int64.minValue := rfl

end TorrentRemote.Setting
