import TorrentRemote.Proofs.Text.Decimal
import Mathlib.Algebra.Order.Field.Rat
import Mathlib.Tactic.NormNum

/-!
# Decimal fractions

A decimal number may have places behind a point, and then denotes a fraction.  It denotes only one,
since the point is no digit, and it ends before the next space.

## Main definitions

* `Text.IsNumeral` : decimal numbers with places or without, and what they denote.

## Main results

* `Text.IsNumeral.unique` : a decimal number denotes one fraction.
* `Text.isNumeral_pair` : what a number with two places denotes.
-/

namespace TorrentRemote.Text

/-- A decimal number: digits, and perhaps a point and more digits. -/
inductive IsNumeral : List Char → ℚ → Prop
  | whole {digits : List Char} (h : IsDigits digits) : IsNumeral digits (digitsNumber digits)
  | places {digits places : List Char} (h : IsDigits digits) (hplaces : IsDigits places) :
    IsNumeral (digits ++ '.' :: places)
      (digitsNumber digits + digitsNumber places / 10 ^ places.length)

theorem IsDigits.not_mem {digits : List Char} {c : Char} (h : IsDigits digits) (hc : ¬ c.isDigit) :
    c ∉ digits :=
  fun hmem => hc (h.2 c hmem)

theorem not_isDigits_append_point (digits places : List Char) :
    ¬ IsDigits (digits ++ '.' :: places) := fun h =>
  h.not_mem (by decide) (List.mem_append_right _ List.mem_cons_self)

theorem IsNumeral.unique {numeral : List Char} {number number' : ℚ} (h : IsNumeral numeral number)
    (h' : IsNumeral numeral number') : number = number' := by
  generalize hnumeral : numeral = other at h'
  cases h with
  | whole hdigits =>
    cases h' with
    | whole _ => rw [hnumeral]
    | places _ _ => exact absurd (hnumeral ▸ hdigits) (not_isDigits_append_point _ _)
  | places hdigits hplaces =>
    cases h' with
    | whole hdigits' => exact absurd (hnumeral ▸ hdigits') (not_isDigits_append_point _ _)
    | places _ _ =>
      obtain ⟨rfl, -, rfl⟩ := (List.append_cons_inj_of_notMem (hdigits.not_mem (by decide))
        (hplaces.not_mem (by decide))).1 hnumeral
      rfl

theorem IsNumeral.space_not_mem {numeral : List Char} {number : ℚ} (h : IsNumeral numeral number) :
    ' ' ∉ numeral := by
  cases h with
  | whole h => exact h.not_mem (by decide)
  | places h hplaces =>
    rw [List.mem_append, List.mem_cons, not_or, not_or]
    exact ⟨h.not_mem (by decide), by decide, hplaces.not_mem (by decide)⟩

theorem isNumeral_decimalDigits (n : Nat) : IsNumeral (decimalDigits n) n := by
  have hwhole := IsNumeral.whole (isDigits_decimalDigits n)
  rwa [digitsNumber_decimalDigits] at hwhole

theorem isDigits_pair {tens ones : Nat} (htens : tens < 10) (hones : ones < 10) :
    IsDigits [decimalDigit tens, decimalDigit ones] :=
  ⟨List.cons_ne_nil _ _, List.forall_mem_cons.2 ⟨isDigit_decimalDigit htens,
    List.forall_mem_singleton.2 (isDigit_decimalDigit hones)⟩⟩

theorem digitsNumber_pair {tens ones : Nat} (htens : tens < 10) (hones : ones < 10) :
    digitsNumber [decimalDigit tens, decimalDigit ones] = 10 * tens + ones := by
  rw [← digitsValue_eq_digitsNumber]
  simp only [digitsValue, List.foldl_cons, List.foldl_nil, toNat_decimalDigit htens,
    toNat_decimalDigit hones]
  omega

theorem isNumeral_pair {tens ones : Nat} (n : Nat) (htens : tens < 10) (hones : ones < 10) :
    IsNumeral (decimalDigits n ++ ['.', decimalDigit tens, decimalDigit ones])
      (n + (10 * tens + ones : Nat) / 100) := by
  have hplaces := IsNumeral.places (isDigits_decimalDigits n) (isDigits_pair htens hones)
  have hhundred : (10 : ℚ) ^ 2 = 100 := by norm_num
  rwa [digitsNumber_decimalDigits, digitsNumber_pair htens hones, List.length_cons,
    List.length_singleton, hhundred] at hplaces

end TorrentRemote.Text
