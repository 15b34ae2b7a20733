import TorrentRemote.Json.Fields
import TorrentRemote.Proofs.Daemon.Settings
import TorrentRemote.Proofs.Text.Decimal
import TorrentRemote.Rpc.Request

/-!
# What a host finds in a request

In the arguments of a change of the settings, a host finds the fields that the change gives and no
others, with limits cut down to what the settings take.

## Main definitions

* `Rpc.changeOf` : the change of the settings that the arguments of a request give.
* `Rpc.sentKib` : what becomes of the number of a limit on the way.

## Main results

* `Rpc.changeOf_sessionArguments` : what a host finds in the arguments of a change.
-/

namespace TorrentRemote.Rpc

open Daemon (SessionChange)
open Wire (member?)

/-! ### Limits -/

/-- The greatest limit for all torrents together. -/
def greatestSessionLimit : Int := Int32.maxValue.toInt

/-- The number of a limit for all torrents together as it is sent. -/
def sentKib (kib : Int64) : Int64 := Int64.ofInt (min greatestSessionLimit (max 0 kib.toInt))

theorem toInt_sentKib (kib : Int64) :
    (sentKib kib).toInt = min greatestSessionLimit (max 0 kib.toInt) := by
  have hgreatest : greatestSessionLimit = 2 ^ 31 - 1 := rfl
  exact Int64.toInt_ofInt_of_le (by omega) (by omega)

theorem toInt_max_zero (n : Int64) : (max 0 n).toInt = max 0 n.toInt := by
  have hzero : (0 : Int64).toInt = 0 := rfl
  change (if 0 ≤ n then n else 0).toInt = _
  split
  all_goals
    next h =>
      rw [Int64.le_iff_toInt_le, hzero] at h
      omega

/-- A limit is cut down to the greatest one. -/
theorem toInt_sessionLimit (kib : Int64) : (sessionLimit kib).toInt = (sentKib kib).toInt := by
  have hgreatest : greatestSessionLimit = 2 ^ 31 - 1 := rfl
  have hlargest : Int32.maxValue.toInt64.toInt = 2 ^ 31 - 1 := rfl
  rw [toInt_sentKib, sessionLimit]
  split
  · next hle =>
    rw [Int64.le_iff_toInt_le, toInt_max_zero, hlargest] at hle
    rw [Int64.toInt_toInt32, toInt_max_zero, Int.bmod_eq_of_le (by omega) (by omega)]
    omega
  · next hgt =>
    rw [Int64.le_iff_toInt_le, toInt_max_zero, hlargest] at hgt
    change greatestSessionLimit = _
    omega

/-! ### Arguments -/

/-- The change of the settings that the arguments of a request give. -/
def changeOf (arguments : Json.Members) : SessionChange where
  downloadDir := (Json.get? (.object arguments) "download-dir").bind Json.text?
  downLimit := {
    kib := (Json.get? (.object arguments) "speed-limit-down").bind Json.int64?
    enabled := (Json.get? (.object arguments) "speed-limit-down-enabled").bind Json.bool? }
  upLimit := {
    kib := (Json.get? (.object arguments) "speed-limit-up").bind Json.int64?
    enabled := (Json.get? (.object arguments) "speed-limit-up-enabled").bind Json.bool? }

theorem int64?_sessionLimit (kib : Int64) :
    (Json.integer (sessionLimit kib).toInt).int64? = some (sentKib kib) := by
  rw [toInt_sessionLimit]
  exact Text.toInt64?_toInt (sentKib kib)

theorem get?_object_append (first second : Json.Members) (key : String) :
    Json.get? (.object (first ++ second)) key =
      (Json.get? (.object first) key).or (Json.get? (.object second) key) := by
  simp only [Json.get?, List.find?_append, Option.map_or]

theorem get?_member? {α : Type} (key other : String) (encode : α → Json) (value : Option α) :
    Json.get? (.object (member? key encode value)) other =
      if key = other then value.map encode else none := by
  cases value with
  | none => simp [member?, Json.get?]
  | some value => by_cases h : key = other <;> simp [member?, Json.get?, h]

/-- A host that reads the arguments finds the change, with limits that have been cut down. -/
theorem changeOf_sessionArguments (change : SessionChange) :
    changeOf (sessionArguments change) = change.mapKib sentKib := by
  obtain ⟨dir, ⟨downKib, downEnabled⟩, ⟨upKib, upEnabled⟩⟩ := change
  have htext : ∀ value : Option String, (value.map Json.string).bind Json.text? = value := by
    rintro (_ | _) <;> rfl
  have hbool : ∀ value : Option Bool, (value.map Json.bool).bind Json.bool? = value := by
    rintro (_ | _) <;> rfl
  have hkib : ∀ value : Option Int64,
      ((value.map sessionLimit).map fun kib => Json.integer kib.toInt).bind Json.int64? =
        value.map sentKib := by
    rintro (_ | kib)
    · rfl
    · exact int64?_sessionLimit kib
  simp only [changeOf, sessionArguments, sessionSet, Wire.SessionSet.arguments, get?_object_append,
    get?_member?, String.reduceEq, if_false, if_true, Option.or_none, Option.none_or, htext, hbool,
    hkib]
  rfl

end TorrentRemote.Rpc
