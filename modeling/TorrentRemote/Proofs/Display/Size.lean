import TorrentRemote.Display.Size
import TorrentRemote.Proofs.Number.Rounding
import TorrentRemote.Proofs.Text.Numeral
import Mathlib.Data.Nat.Cast.Field
import Mathlib.Tactic.Linarith
import Mathlib.Tactic.Qify

/-!
# What sizes denote

The text of a size is a number and a unit, and so denotes a number of bytes.  The unit is the
largest one that the size reaches.  What is denoted differs from the size by half a hundredth of the
unit at most, and by what is lost when the size becomes a double.  Sizes in order are shown in
order, whatever their units are, since the most that is shown of a unit is the least that is shown
of the next one.

The unit is chosen before the number is rounded.  So a size that is almost the next unit is shown as
1024.00 of the unit below it.

## Main definitions

* `Display.Denotes`, `Display.DenotesOnly` : the number and the unit in a text.
* `Display.SizeUnit.IsLargest` : the unit that a size reaches.
* `Display.IsAccurate` : a number of a unit that stands for a size.
* `Display.BelongsTo` : a number for which there is no better unit.

## Main results

* `Display.centibytes_shownSize_near`, `Display.centibytes_shownSize_mono` : the shown size is near
  the size, and keeps the order.
* `Display.denotesOnly_size` : what the text of a size denotes.
* `Display.sizes_accurate_in_order` : it is accurate, and in order.
* `Display.sizes_belong_to_units` : which sizes are shown as a number that belongs to its unit.
* `Display.not_belongsTo_almost_mib` : not all are.
-/

namespace TorrentRemote.Display

open Text (IsNumeral)

/-! ### Units -/

namespace SizeUnit

variable {unit unit' : SizeUnit} {n m : Nat}

/-- The largest unit that a number of bytes reaches, or the byte if it reaches none. -/
def IsLargest (unit : SizeUnit) (n : Nat) : Prop :=
  (unit = .byte ∨ unit.bytes ≤ n) ∧ ∀ other : SizeUnit, other.bytes ≤ n → other.bytes ≤ unit.bytes

theorem bytes_pos (unit : SizeUnit) : 0 < unit.bytes := by
  cases unit <;> decide

theorem bytes_le_tib (unit : SizeUnit) : unit.bytes ≤ tib.bytes := by
  cases unit <;> decide

theorem bytes_le_two_pow (unit : SizeUnit) : unit.bytes ≤ 2 ^ 53 :=
  Nat.le_trans unit.bytes_le_tib (by decide)

theorem bytes_le_of_ne_tib (h : unit ≠ .tib) : unit.bytes ≤ 2 ^ 30 := by
  revert h
  cases unit <;> decide

/-- A unit has at least 1024 times the bytes of every lesser one. -/
theorem mul_bytes_le_of_lt (h : unit.bytes < unit'.bytes) : 1024 * unit.bytes ≤ unit'.bytes := by
  revert h
  cases unit <;> cases unit' <;> decide

theorem isLargest_largest (n : Nat) : (largest n).IsLargest n := by
  have hbytes : kib.bytes = 2 ^ 10 ∧ mib.bytes = 2 ^ 20 ∧ gib.bytes = 2 ^ 30 ∧ tib.bytes = 2 ^ 40 :=
    ⟨rfl, rfl, rfl, rfl⟩
  have hbyte : byte.bytes = 1 := rfl
  unfold largest
  split_ifs with htib hgib hmib hkib
  · exact ⟨.inr htib, fun other _ => by cases other <;> decide⟩
  · exact ⟨.inr hgib, fun other hother => by cases other <;> omega⟩
  · exact ⟨.inr hmib, fun other hother => by cases other <;> omega⟩
  · exact ⟨.inr hkib, fun other hother => by cases other <;> omega⟩
  · exact ⟨.inl rfl, fun other hother => by cases other <;> omega⟩

/-- Becoming a double takes no size across the bound of a unit. -/
theorem largest_roundToDouble (n : Nat) : largest (Number.roundToDouble n) = largest n := by
  simp only [largest, Number.le_roundToDouble_iff (bytes_le_two_pow _)]

theorem IsLargest.bytes_le (h : unit.IsLargest n) (h' : unit'.IsLargest m) (hle : n ≤ m) :
    unit.bytes ≤ unit'.bytes := by
  rcases h.1 with rfl | hreach
  · exact unit'.bytes_pos
  · exact h'.2 unit (Nat.le_trans hreach hle)

theorem IsLargest.lt (h : unit.IsLargest n) (hunit : unit ≠ .tib) : n < 1024 * unit.bytes := by
  -- The next unit is not reached.
  have hnext (other : SizeUnit) (hother : unit.bytes < other.bytes) : n < other.bytes :=
    Nat.lt_of_not_le fun hreach => absurd (h.2 other hreach) (Nat.not_le.2 hother)
  cases unit with
  | byte => exact hnext .kib (by decide)
  | kib => exact hnext .mib (by decide)
  | mib => exact hnext .gib (by decide)
  | gib => exact hnext .tib (by decide)
  | tib => exact absurd rfl hunit

theorem symbol_inj : unit.symbol = unit'.symbol ↔ unit = unit' := by
  cases unit <;> cases unit' <;> decide

end SizeUnit

/-! ### Shown sizes -/

section

open Number (roundToDouble roundHalfEven)

variable {n m : Nat}

/-- The number in front of the unit. -/
def ShownSize.amount (shown : ShownSize) : ℚ := shown.hundredths / 100

/-- The size that is shown, in hundredths of a byte. -/
def ShownSize.centibytes (shown : ShownSize) : Nat := shown.hundredths * shown.unit.bytes

theorem ShownSize.amount_mul_bytes (shown : ShownSize) :
    shown.amount * shown.unit.bytes = shown.centibytes / 100 := by
  rw [amount, centibytes, Nat.cast_mul]
  ring

theorem unit_shownSize (n : Nat) : (shownSize n).unit = SizeUnit.largest n :=
  SizeUnit.largest_roundToDouble n

theorem hundredths_shownSize (n : Nat) : (shownSize n).hundredths =
    roundHalfEven (roundToDouble n * 100) (shownSize n).unit.bytes :=
  rfl

theorem isLargest_unit_shownSize (n : Nat) : (shownSize n).unit.IsLargest n :=
  unit_shownSize n ▸ SizeUnit.isLargest_largest n

/-- A size below the largest unit is its own double. -/
theorem roundToDouble_of_ne_tib (h : (shownSize n).unit ≠ .tib) :
    roundToDouble n = n ∧ n < 1024 * (shownSize n).unit.bytes := by
  have hlt := (isLargest_unit_shownSize n).lt h
  have hbytes := SizeUnit.bytes_le_of_ne_tib h
  exact ⟨Number.roundToDouble_of_lt (by omega), hlt⟩

/-- Rounding to hundredths changes half a hundredth of the unit at most. -/
theorem centibytes_shownSize_near (n : Nat) :
    2 * (roundToDouble n * 100) ≤ 2 * (shownSize n).centibytes + (shownSize n).unit.bytes ∧
      2 * (shownSize n).centibytes ≤ 2 * (roundToDouble n * 100) + (shownSize n).unit.bytes :=
  Number.roundHalfEven_near _ (SizeUnit.bytes_pos _)

theorem hundredths_of_byte (h : (shownSize n).unit = .byte) :
    (shownSize n).hundredths = n * 100 := by
  have hdouble := (roundToDouble_of_ne_tib (n := n) (by rw [h]; decide)).1
  have hwhole := Number.roundHalfEven_mul Nat.one_pos (n * 100)
  rw [Nat.mul_one] at hwhole
  rw [hundredths_shownSize, hdouble, h]
  exact hwhole

theorem le_hundredths (h : (shownSize n).unit ≠ .byte) : 100 ≤ (shownSize n).hundredths := by
  have hreach : (shownSize n).unit.bytes ≤ roundToDouble n :=
    (Number.le_roundToDouble_iff (SizeUnit.bytes_le_two_pow _)).2
      ((isLargest_unit_shownSize n).1.resolve_left h)
  rw [hundredths_shownSize]
  exact Number.le_roundHalfEven_of_mul_le (SizeUnit.bytes_pos _) (by omega)

theorem hundredths_le (h : (shownSize n).unit ≠ .tib) : (shownSize n).hundredths ≤ 102400 := by
  obtain ⟨hdouble, hlt⟩ := roundToDouble_of_ne_tib h
  rw [hundredths_shownSize, hdouble]
  exact Number.roundHalfEven_le_of_le_mul (SizeUnit.bytes_pos _) (by omega)

/-- A size is shown as less than 1024 of its unit if it lies below the middle of 1023.99 and
1024.00.  The middle itself is rounded up, to the even one of the two. -/
theorem hundredths_lt_iff (h : (shownSize n).unit ≠ .tib) :
    (shownSize n).hundredths < 102400 ↔ 200 * n < 204799 * (shownSize n).unit.bytes := by
  rw [hundredths_shownSize, (roundToDouble_of_ne_tib h).1, Nat.lt_succ_iff,
    Number.roundHalfEven_le_iff (SizeUnit.bytes_pos _)]
  omega

/-- What is shown of sizes in order is in order.  If the units differ, the lesser size is shown as
1024 of its unit at most, and the greater one as one of its unit at least. -/
theorem centibytes_shownSize_mono (h : n ≤ m) :
    (shownSize n).centibytes ≤ (shownSize m).centibytes := by
  have hunit := (isLargest_unit_shownSize n).bytes_le (isLargest_unit_shownSize m) h
  rcases Nat.lt_or_eq_of_le hunit with hlt | heq
  · have hunits := SizeUnit.mul_bytes_le_of_lt hlt
    have hn : (shownSize n).unit ≠ .tib := by
      intro htib
      rw [htib] at hlt
      exact absurd hlt (Nat.not_lt.2 (SizeUnit.bytes_le_tib _))
    have hm : (shownSize m).unit ≠ .byte := by
      intro hbyte
      rw [hbyte] at hlt
      exact absurd hlt (Nat.not_lt.2 (SizeUnit.bytes_pos _))
    calc (shownSize n).hundredths * (shownSize n).unit.bytes
        ≤ 102400 * (shownSize n).unit.bytes := Nat.mul_le_mul_right _ (hundredths_le hn)
      _ ≤ 100 * (shownSize m).unit.bytes := by omega
      _ ≤ (shownSize m).hundredths * (shownSize m).unit.bytes :=
        Nat.mul_le_mul_right _ (le_hundredths hm)
  · rw [ShownSize.centibytes, ShownSize.centibytes, hundredths_shownSize, hundredths_shownSize, heq]
    exact Nat.mul_le_mul_right _ (Number.roundHalfEven_mono (SizeUnit.bytes_pos _)
      (Nat.mul_le_mul_right 100 (Number.roundToDouble_mono h)))

end

/-! ### What texts denote -/

section

variable {text : String} {number number' : ℚ} {unit unit' : SizeUnit}

/-- The text of a number and, after a space, of a unit. -/
def Denotes (text : String) (number : ℚ) (unit : SizeUnit) : Prop :=
  ∃ numeral, IsNumeral numeral number ∧ text.toList = numeral ++ ' ' :: unit.symbol.toList

theorem Denotes.unique (h : Denotes text number unit) (h' : Denotes text number' unit') :
    number' = number ∧ unit' = unit := by
  obtain ⟨numeral, hnumeral, htext⟩ := h
  obtain ⟨numeral', hnumeral', htext'⟩ := h'
  have hsymbol : ' ' ∉ unit.symbol.toList := by cases unit <;> decide
  obtain ⟨rfl, -, hunit⟩ :=
    (List.append_cons_inj_of_notMem hnumeral.space_not_mem hsymbol).1 (htext.symm.trans htext')
  exact ⟨hnumeral'.unique hnumeral, SizeUnit.symbol_inj.1 (String.toList_inj.1 hunit.symm)⟩

theorem isNumeral_twoPlaces (hundredths : Nat) :
    IsNumeral (twoPlaces hundredths).toList (hundredths / 100) := by
  have hnumeral := Text.isNumeral_pair (hundredths / 100)
    (Nat.mod_lt (hundredths / 10) (by decide)) (Nat.mod_lt hundredths (by decide))
  have hsplit : hundredths = 100 * (hundredths / 100) +
      (10 * (hundredths / 10 % 10) + hundredths % 10) := by omega
  have hcast : (hundredths : ℚ) = 100 * (hundredths / 100 : Nat) +
      (10 * (hundredths / 10 % 10) + hundredths % 10 : Nat) := by exact_mod_cast hsplit
  rw [twoPlaces, String.toList_ofList]
  convert hnumeral using 1
  rw [hcast]
  ring

theorem denotes_text {shown : ShownSize} (h : shown.unit = .byte → 100 ∣ shown.hundredths) :
    Denotes shown.text shown.amount shown.unit := by
  refine ⟨shown.number.toList, ?_, by simp [ShownSize.text]⟩
  unfold ShownSize.number ShownSize.amount
  split_ifs with hunit
  · have hwhole : (shown.hundredths / 100 : ℚ) = (shown.hundredths / 100 : Nat) :=
      (Nat.cast_div (h hunit) (by norm_num)).symm
    rw [Text.showNat, String.toList_ofList, hwhole]
    exact Text.isNumeral_decimalDigits _
  · exact isNumeral_twoPlaces _

/-- A text that denotes a number of a unit and nothing else. -/
def DenotesOnly (text : String) (number : ℚ) (unit : SizeUnit) : Prop :=
  ∀ number' unit', Denotes text number' unit' ↔ number' = number ∧ unit' = unit

theorem denotesOnly_size {bytes : Int64} (h : 0 ≤ bytes.toInt) :
    DenotesOnly (size bytes) (shownSize bytes.toInt.toNat).amount
      (shownSize bytes.toInt.toNat).unit := by
  have hdenotes : Denotes (size bytes) (shownSize bytes.toInt.toNat).amount
      (shownSize bytes.toInt.toNat).unit := by
    rw [size, if_neg (Int.not_lt.2 h)]
    exact denotes_text fun hbyte => hundredths_of_byte hbyte ▸ Nat.dvd_mul_left ..
  intro number unit
  constructor
  · exact hdenotes.unique
  · rintro ⟨rfl, rfl⟩
    exact hdenotes

theorem denotes_size_of_eq {bytes : Int64} (hundredths : Nat) (h : 0 ≤ bytes.toInt)
    (hshown : shownSize bytes.toInt.toNat = ⟨unit, hundredths⟩)
    (hnumber : number * 100 = hundredths) : Denotes (size bytes) number unit := by
  refine (denotesOnly_size h _ _).2 ?_
  rw [hshown, ShownSize.amount, ← hnumber]
  exact ⟨by norm_num, rfl⟩

end

/-- The last size before a MiB. -/
theorem denotes_size_almost_mib : Denotes (size 1048575) 1024 .kib :=
  denotes_size_of_eq 102400 (by decide) rfl (by norm_num)

/-! ### Accuracy and order -/

/-- A number of a unit that stands for a size.  The unit is the largest one that the size reaches; a
number of bytes is exact, and others are up to half a hundredth.  What a size from `2 ^ 53` on loses
by becoming a double is 512 bytes at most. -/
structure IsAccurate (n : Nat) (number : ℚ) (unit : SizeUnit) : Prop where
  isLargest : unit.IsLargest n
  exact_of_byte : unit = .byte → number * unit.bytes = n
  error_le : |number * unit.bytes - n| ≤ 5 / 1000 * unit.bytes + if 2 ^ 53 ≤ n then 512 else 0

theorem isAccurate_shownSize {n : Nat} (h : n < 2 ^ 63) :
    IsAccurate n (shownSize n).amount (shownSize n).unit := by
  refine ⟨isLargest_unit_shownSize n, fun hbyte => ?_, ?_⟩
  · have hone : SizeUnit.byte.bytes = 1 := rfl
    rw [ShownSize.amount, hundredths_of_byte hbyte, hbyte, hone]
    push_cast
    ring
  · rw [ShownSize.amount_mul_bytes, abs_le]
    obtain ⟨hlow, hhigh⟩ := centibytes_shownSize_near n
    generalize (shownSize n).centibytes = shown, (shownSize n).unit.bytes = unit at hlow hhigh ⊢
    qify at hlow hhigh
    split_ifs with hlarge
    · obtain ⟨hbelow, habove⟩ := Number.roundToDouble_near hlarge h
      qify at hbelow habove
      constructor <;> linarith
    · rw [Number.roundToDouble_of_lt (Nat.lt_of_not_le hlarge)] at hlow hhigh
      constructor <;> linarith

/-- **Displayed sizes are accurate and in order.**  The text of a size that is not negative denotes
a number of a unit, and nothing else.  The unit is the largest one that the size reaches, and what
is denoted differs from the size by half a hundredth of the unit at most, and by 512 bytes more if
the size is `2 ^ 53` or greater; a number of bytes is exact.  Of two sizes the greater one is never
shown as less, whatever their units are. -/
theorem sizes_accurate_in_order :
    (∀ bytes : Int64, 0 ≤ bytes.toInt → ∃ number unit,
      DenotesOnly (size bytes) number unit ∧ IsAccurate bytes.toInt.toNat number unit) ∧
    ∀ bytes bytes' : Int64, 0 ≤ bytes.toInt → bytes ≤ bytes' →
      ∀ number unit number' unit', Denotes (size bytes) number unit →
        Denotes (size bytes') number' unit' → number * unit.bytes ≤ number' * unit'.bytes := by
  constructor
  · intro bytes h
    have hlt := bytes.toInt_lt
    exact ⟨_, _, denotesOnly_size h, isAccurate_shownSize (by omega)⟩
  · intro bytes bytes' h hle number unit number' unit' hdenotes hdenotes'
    rw [Int64.le_iff_toInt_le] at hle
    obtain ⟨rfl, rfl⟩ := (denotesOnly_size h _ _).1 hdenotes
    obtain ⟨rfl, rfl⟩ := (denotesOnly_size (Int.le_trans h hle) _ _).1 hdenotes'
    have hmono := centibytes_shownSize_mono (Int.toNat_le_toNat hle)
    rw [ShownSize.amount_mul_bytes, ShownSize.amount_mul_bytes]
    exact div_le_div_of_nonneg_right (by exact_mod_cast hmono) (by norm_num)

/-- The greatest size is shown as one byte more than it is.  The last byte before a MiB changes the
unit and nothing else. -/
theorem sizes_accurate_in_order_greatest :
    Denotes (size Int64.maxValue) 8388608 .tib ∧ IsAccurate (2 ^ 63 - 1) 8388608 .tib ∧
    Denotes (size 1048575) 1024 .kib ∧ Denotes (size 1048576) 1 .mib ∧
    (1024 : ℚ) * SizeUnit.kib.bytes ≤ 1 * SizeUnit.mib.bytes := by
  have hgreatest : Denotes (size Int64.maxValue) 8388608 .tib :=
    denotes_size_of_eq 838860800 (by decide) rfl (by norm_num)
  have hmib : Denotes (size 1048576) 1 .mib :=
    denotes_size_of_eq 100 (by decide) rfl (by norm_num)
  obtain ⟨haccurate, horder⟩ := sizes_accurate_in_order
  obtain ⟨number, unit, honly, haccurate⟩ := haccurate Int64.maxValue (by decide)
  obtain ⟨rfl, rfl⟩ := (honly _ _).1 hgreatest
  exact ⟨hgreatest, haccurate, denotes_size_almost_mib, hmib,
    horder 1048575 1048576 (by decide) (by decide) _ _ _ _ denotes_size_almost_mib hmib⟩

/-! ### Numbers and their units -/

/-- A number that is less than 1024, if there is a greater unit, and at least one, if there is a
lesser unit. -/
def BelongsTo (number : ℚ) (unit : SizeUnit) : Prop :=
  (unit ≠ .tib → number < 1024) ∧ (unit ≠ .byte → 1 ≤ number)

section

variable {n : Nat}

theorem one_le_amount (h : (shownSize n).unit ≠ .byte) : 1 ≤ (shownSize n).amount := by
  have hle := le_hundredths h
  qify at hle
  rw [ShownSize.amount]
  linarith

theorem amount_le (h : (shownSize n).unit ≠ .tib) : (shownSize n).amount ≤ 1024 := by
  have hle := hundredths_le h
  qify at hle
  rw [ShownSize.amount]
  linarith

theorem amount_lt_iff (h : (shownSize n).unit ≠ .tib) :
    (shownSize n).amount < 1024 ↔ 200 * n < 204799 * (shownSize n).unit.bytes := by
  have hbound : (1024 * 100 : ℚ) = (102400 : Nat) := by norm_num
  rw [← hundredths_lt_iff h, ShownSize.amount, div_lt_iff₀ (by norm_num), hbound, Nat.cast_lt]

theorem amount_lt_of_byte (h : (shownSize n).unit = .byte) : (shownSize n).amount < 1024 := by
  have hlt := (isLargest_unit_shownSize n).lt (by rw [h]; decide)
  have hbyte : SizeUnit.byte.bytes = 1 := rfl
  rw [amount_lt_iff (by rw [h]; decide)]
  rw [h] at hlt ⊢
  omega

theorem belongsTo_shownSize_iff : BelongsTo (shownSize n).amount (shownSize n).unit ↔
    (shownSize n).unit = .tib ∨ 200 * n < 204799 * (shownSize n).unit.bytes := by
  rw [BelongsTo, and_iff_left one_le_amount]
  by_cases htib : (shownSize n).unit = .tib
  · exact iff_of_true (fun hunit => absurd htib hunit) (.inl htib)
  · rw [or_iff_right htib, ← amount_lt_iff htib]
    exact ⟨fun hless => hless htib, fun hless _ => hless⟩

end

/-- **Numbers belong to their units, but for the last sizes before the next unit.**  The number in
front of a unit is at least one, if there is a lesser unit, and 1024 at most, if there is a greater
one.  It is less than 1024 exactly if the size is less than 1023.995 of the unit; numbers of bytes
always are. -/
theorem sizes_belong_to_units (bytes : Int64) (h : 0 ≤ bytes.toInt) :
    ∃ number unit, DenotesOnly (size bytes) number unit ∧
      (BelongsTo number unit ↔
        unit = .tib ∨ 200 * bytes.toInt.toNat < 204799 * unit.bytes) ∧
      (unit = .byte → number < 1024) ∧ (unit ≠ .byte → 1 ≤ number) ∧
      (unit ≠ .tib → number ≤ 1024) :=
  ⟨_, _, denotesOnly_size h, belongsTo_shownSize_iff, amount_lt_of_byte, one_le_amount, amount_le⟩

/-- Of the sizes below a MiB, the last five are shown as 1024.00 KiB.  The one before them is shown
as less. -/
theorem sizes_belong_to_units_almost_mib :
    (Denotes (size 1048570) 1023.99 .kib ∧ BelongsTo 1023.99 .kib) ∧
    Denotes (size 1048571) 1024 .kib ∧ ¬ BelongsTo 1024 .kib := by
  have hlast : Denotes (size 1048570) 1023.99 .kib :=
    denotes_size_of_eq 102399 (by decide) rfl (by norm_num)
  have hfirst : Denotes (size 1048571) 1024 .kib :=
    denotes_size_of_eq 102400 (by decide) rfl (by norm_num)
  obtain ⟨number, unit, honly, hbelongs, -⟩ := sizes_belong_to_units 1048570 (by decide)
  obtain ⟨rfl, rfl⟩ := (honly _ _).1 hlast
  obtain ⟨number, unit, honly, hnot, -⟩ := sizes_belong_to_units 1048571 (by decide)
  obtain ⟨rfl, rfl⟩ := (honly _ _).1 hfirst
  exact ⟨⟨hlast, hbelongs.2 (.inr (by decide))⟩, hfirst,
    mt hnot.1 (not_or_intro (by decide) (by decide))⟩

/-- **Some sizes are shown as 1024.00 of a unit, though there is a greater one.**  One of them is
the last size before a MiB. -/
theorem not_belongsTo_almost_mib :
    size 1048575 = "1024.00 KiB" ∧
    ¬ ∀ bytes : Int64, 0 ≤ bytes.toInt → ∀ number unit,
      Denotes (size bytes) number unit → BelongsTo number unit := by
  refine ⟨by decide +kernel, fun hall => ?_⟩
  have hless := (hall 1048575 (by decide) _ _ denotes_size_almost_mib).1 (by decide)
  norm_num at hless

end TorrentRemote.Display
