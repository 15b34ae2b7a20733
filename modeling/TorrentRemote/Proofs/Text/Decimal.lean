import TorrentRemote.Text.Decimal
import Mathlib.Data.List.Basic
import Mathlib.Data.List.Induction
import Mathlib.Data.Nat.Digits.Defs

/-!
# Reading decimal numbers

The decimal digits of a 64-bit integer are read as that integer, for every value from the least to
the greatest.  The digits consist of ASCII digits and at most a minus sign.  Conversely, what is
read as an integer is a decimal number, whose digits may begin with zeros, and only one decimal form
of a number does without them.

## Main definitions

* `Text.IsDecimal` : decimal numbers and what they denote, by the places of their digits.
* `Text.IsSign` : the signs that may stand before digits.
* `Text.BeginsWithZero` : a text whose first digit is a zero.

## Main results

* `Text.readInt64?_intDigits` : the digits of a 64-bit integer are read as that integer.
* `Text.readInt64?_eq_some_iff` : what is read as a 64-bit integer.
* `Text.isDecimal_and_not_beginsWithZero_iff` : the decimal form without leading zeros is unique.
-/

namespace TorrentRemote.Text

/-! ### Natural numbers -/

theorem toNat_decimalDigit {n : Nat} (h : n < 10) :
    (decimalDigit n).toNat = '0'.toNat + n := by
  have hall : ∀ m : Fin 10, (decimalDigit m).toNat = '0'.toNat + m := by decide
  exact hall ⟨n, h⟩

theorem isDigit_decimalDigit {n : Nat} (h : n < 10) : (decimalDigit n).isDigit := by
  have hall : ∀ m : Fin 10, (decimalDigit m).isDigit := by decide
  exact hall ⟨n, h⟩

theorem decimalDigits_ne_nil (n : Nat) : decimalDigits n ≠ [] := by
  rw [decimalDigits]
  split <;> simp

theorem isDigit_of_mem_decimalDigits {n : Nat} {c : Char} (h : c ∈ decimalDigits n) :
    c.isDigit := by
  induction n using decimalDigits.induct with
  | case1 n hn =>
    rw [decimalDigits, if_pos hn, List.mem_singleton] at h
    exact h ▸ isDigit_decimalDigit hn
  | case2 n hn ih =>
    rw [decimalDigits, if_neg hn, List.mem_append, List.mem_singleton] at h
    rcases h with h | rfl
    · exact ih h
    · exact isDigit_decimalDigit (Nat.mod_lt _ (by omega))

theorem digitsValue_append_singleton (cs : List Char) (c : Char) (start : Nat) :
    digitsValue (cs ++ [c]) start = 10 * digitsValue cs start + (c.toNat - '0'.toNat) := by
  simp only [digitsValue, List.foldl_append, List.foldl_cons, List.foldl_nil]

/-- The decimal digits of a number have that number as their value. -/
theorem digitsValue_decimalDigits (n : Nat) : digitsValue (decimalDigits n) 0 = n := by
  induction n using decimalDigits.induct with
  | case1 n hn =>
    rw [decimalDigits, if_pos hn]
    simp only [digitsValue, List.foldl_cons, List.foldl_nil, toNat_decimalDigit hn]
    omega
  | case2 n hn ih =>
    have hlast : n % 10 < 10 := Nat.mod_lt _ (by omega)
    rw [decimalDigits, if_neg hn, digitsValue_append_singleton, ih, toNat_decimalDigit hlast]
    omega

theorem readNat?_decimalDigits (n : Nat) : readNat? (decimalDigits n) = some n := by
  have hdigits : (decimalDigits n).all Char.isDigit :=
    List.all_eq_true.2 fun _ hc => isDigit_of_mem_decimalDigits hc
  rw [readNat?, if_pos ⟨decimalDigits_ne_nil n, hdigits⟩, digitsValue_decimalDigits]

/-! ### Integers -/

/-- Digits alone are read as a number without sign. -/
theorem readInt?_of_isDigit {cs : List Char} (h : ∀ c ∈ cs, c.isDigit) :
    readInt? cs = (readNat? cs).map Int.ofNat := by
  unfold readInt?
  split
  · exact absurd (h '-' List.mem_cons_self) (by decide)
  · exact absurd (h '+' List.mem_cons_self) (by decide)
  · rfl

theorem readInt?_intDigits (n : Int) : readInt? (intDigits n) = some n := by
  unfold intDigits
  split
  · simp only [readInt?, readNat?_decimalDigits, Option.map_some, Int.ofNat_eq_natCast,
      Option.some.injEq]
    omega
  · rw [readInt?_of_isDigit fun _ hc => isDigit_of_mem_decimalDigits hc,
      readNat?_decimalDigits, Option.map_some, Int.ofNat_eq_natCast, Option.some.injEq]
    omega

theorem mem_intDigits {n : Int} {c : Char} (h : c ∈ intDigits n) : c = '-' ∨ c.isDigit := by
  unfold intDigits at h
  split at h
  · exact (List.mem_cons.1 h).imp_right isDigit_of_mem_decimalDigits
  · exact .inr (isDigit_of_mem_decimalDigits h)

theorem toInt64?_toInt (value : Int64) : toInt64? value.toInt = some value := by
  rw [toInt64?, if_pos ⟨value.minValue_le_toInt, value.toInt_le⟩, Int64.ofInt_toInt]

/-- Every 64-bit integer is read back from its digits. -/
theorem readInt64?_intDigits (value : Int64) : readInt64? (intDigits value.toInt) = some value := by
  rw [readInt64?, readInt?_intDigits, Option.bind_some, toInt64?_toInt]

/-! ### Decimal notation -/

/-- One or more ASCII digits. -/
def IsDigits (cs : List Char) : Prop := cs ≠ [] ∧ ∀ c ∈ cs, c.isDigit

/-- The number of an ASCII digit. -/
def digitValue (c : Char) : Nat := c.toNat - '0'.toNat

/-- The number that digits denote by their places. -/
def digitsNumber (cs : List Char) : Nat := Nat.ofDigits 10 (cs.reverse.map digitValue)

/-- A decimal number: digits, perhaps after a minus sign. -/
inductive IsDecimal : List Char → Int → Prop
  | unsigned {digits : List Char} (h : IsDigits digits) : IsDecimal digits (digitsNumber digits)
  | negative {digits : List Char} (h : IsDigits digits) :
    IsDecimal ('-' :: digits) (-digitsNumber digits)

theorem digitsNumber_append_singleton (cs : List Char) (c : Char) :
    digitsNumber (cs ++ [c]) = 10 * digitsNumber cs + digitValue c := by
  rw [digitsNumber, List.reverse_append, List.reverse_singleton, List.singleton_append,
    List.map_cons, Nat.ofDigits_cons, ← digitsNumber, Nat.add_comm]

/-- Reading digits one after another gives the number that they denote by their places. -/
theorem digitsValue_eq_digitsNumber (cs : List Char) : digitsValue cs 0 = digitsNumber cs := by
  induction cs using List.reverseRecOn with
  | nil => rfl
  | append_singleton cs c ih =>
    rw [digitsValue_append_singleton, digitsNumber_append_singleton, ih, digitValue]

theorem isDigits_decimalDigits (n : Nat) : IsDigits (decimalDigits n) :=
  ⟨decimalDigits_ne_nil n, fun _ => isDigit_of_mem_decimalDigits⟩

theorem digitsNumber_decimalDigits (n : Nat) : digitsNumber (decimalDigits n) = n := by
  rw [← digitsValue_eq_digitsNumber, digitsValue_decimalDigits]

theorem readNat?_eq_some_iff {cs : List Char} {n : Nat} :
    readNat? cs = some n ↔ IsDigits cs ∧ n = digitsNumber cs := by
  have hdigits : cs ≠ [] ∧ cs.all Char.isDigit ↔ IsDigits cs := and_congr_right' List.all_eq_true
  rw [readNat?, digitsValue_eq_digitsNumber, Option.ite_none_right_eq_some, hdigits,
    Option.some.injEq, eq_comm (a := n)]

theorem map_readNat?_eq_some_iff {cs : List Char} {f : Nat → Int} {n : Int} :
    (readNat? cs).map f = some n ↔ IsDigits cs ∧ n = f (digitsNumber cs) := by
  simp only [Option.map_eq_some_iff, readNat?_eq_some_iff]
  constructor
  · rintro ⟨m, ⟨hdigits, rfl⟩, rfl⟩
    exact ⟨hdigits, rfl⟩
  · rintro ⟨hdigits, rfl⟩
    exact ⟨_, ⟨hdigits, rfl⟩, rfl⟩

/-- What is read as an integer is a decimal number, or digits after a plus sign. -/
theorem readInt?_eq_some_iff {cs : List Char} {n : Int} : readInt? cs = some n ↔
    IsDecimal cs n ∨ ∃ digits, cs = '+' :: digits ∧ IsDigits digits ∧ n = digitsNumber digits := by
  constructor
  · intro h
    unfold readInt? at h
    split at h
    · obtain ⟨hdigits, rfl⟩ := map_readNat?_eq_some_iff.1 h
      exact .inl (.negative hdigits)
    · exact .inr ⟨_, rfl, map_readNat?_eq_some_iff.1 h⟩
    · obtain ⟨hdigits, rfl⟩ := map_readNat?_eq_some_iff.1 h
      exact .inl (.unsigned hdigits)
  · rintro (hdecimal | ⟨digits, rfl, hdigits⟩)
    · cases hdecimal with
      | unsigned hdigits =>
        rw [readInt?_of_isDigit hdigits.2]
        exact map_readNat?_eq_some_iff.2 ⟨hdigits, rfl⟩
      | negative hdigits => exact map_readNat?_eq_some_iff.2 ⟨hdigits, rfl⟩
    · exact map_readNat?_eq_some_iff.2 hdigits

/-- The signs that may stand before digits, with the factor that each stands for. -/
inductive IsSign : List Char → Int → Prop
  | none : IsSign [] 1
  | plus : IsSign ['+'] 1
  | minus : IsSign ['-'] (-1)

/-- What is read as an integer is a sign or none, and one or more digits. -/
theorem readInt?_eq_some_iff_sign_append {cs : List Char} {n : Int} : readInt? cs = some n ↔
    ∃ sign factor digits, IsSign sign factor ∧ IsDigits digits ∧ cs = sign ++ digits ∧
      n = factor * digitsNumber digits := by
  rw [readInt?_eq_some_iff]
  constructor
  · rintro ((hdigits | hdigits) | ⟨digits, rfl, hdigits, rfl⟩)
    · exact ⟨_, _, cs, .none, hdigits, rfl, (Int.one_mul _).symm⟩
    · exact ⟨_, _, _, .minus, hdigits, rfl, Int.neg_eq_neg_one_mul _⟩
    · exact ⟨_, _, digits, .plus, hdigits, rfl, (Int.one_mul _).symm⟩
  · rintro ⟨sign, factor, digits, hsign, hdigits, rfl, rfl⟩
    cases hsign with
    | none =>
      rw [Int.one_mul]
      exact .inl (.unsigned hdigits)
    | plus => exact .inr ⟨digits, rfl, hdigits, Int.one_mul _⟩
    | minus =>
      rw [← Int.neg_eq_neg_one_mul]
      exact .inl (.negative hdigits)

theorem toInt64?_eq_some_iff {n : Int} {value : Int64} :
    toInt64? n = some value ↔ n = value.toInt := by
  constructor
  · intro h
    rw [toInt64?] at h
    split at h
    · rename_i hrange
      obtain rfl := Option.some.inj h
      exact (Int64.toInt_ofInt_of_le hrange.1 (Int.lt_add_one_of_le hrange.2)).symm
    · cases h
  · rintro rfl
    exact toInt64?_toInt value

/-- What is read as a 64-bit integer is a decimal number in range, or digits after a plus sign. -/
theorem readInt64?_eq_some_iff {cs : List Char} {value : Int64} (hplus : '+' ∉ cs) :
    readInt64? cs = some value ↔ IsDecimal cs value.toInt := by
  simp only [readInt64?, Option.bind_eq_some_iff, toInt64?_eq_some_iff]
  constructor
  · rintro ⟨n, hn, rfl⟩
    rcases readInt?_eq_some_iff.1 hn with h | ⟨digits, rfl, -⟩
    · exact h
    · exact absurd List.mem_cons_self hplus
  · exact fun h => ⟨_, readInt?_eq_some_iff.2 (.inl h), rfl⟩

/-! ### Leading zeros -/

/-- The first digit is a zero, perhaps after a minus sign. -/
def BeginsWithZero (cs : List Char) : Prop := ∃ rest, cs = '0' :: rest ∨ cs = '-' :: '0' :: rest

theorem digitValue_lt_and_decimalDigit {c : Char} (h : c.isDigit) :
    digitValue c < 10 ∧ decimalDigit (digitValue c) = c := by
  obtain ⟨hlow, hhigh⟩ := Char.isDigit_iff_toNat.1 h
  have hends : '0'.toNat = 48 ∧ '9'.toNat = 57 := ⟨rfl, rfl⟩
  refine ⟨by rw [digitValue]; omega, ?_⟩
  rw [decimalDigit, digitValue, Nat.add_sub_cancel' (by omega), Char.ofNat_toNat]

theorem head?_decimalDigits_ne {n : Nat} (hn : n ≠ 0) : (decimalDigits n).head? ≠ some '0' := by
  induction n using decimalDigits.induct with
  | case1 n hlt =>
    have hall : ∀ m : Fin 10, m.1 ≠ 0 → decimalDigit m ≠ '0' := by decide
    rw [decimalDigits, if_pos hlt]
    simpa using hall ⟨n, hlt⟩ hn
  | case2 n hge ih =>
    rw [decimalDigits, if_neg hge, List.head?_append_of_ne_nil _ (decimalDigits_ne_nil _)]
    exact ih (by omega)

/-- Digits that do not begin with a zero are those of the number that they denote. -/
theorem decimalDigits_digitsNumber {cs : List Char} (h : IsDigits cs)
    (hzero : cs.head? ≠ some '0') : decimalDigits (digitsNumber cs) = cs := by
  induction cs using List.reverseRecOn with
  | nil => exact absurd rfl h.1
  | append_singleton cs c ih =>
    obtain ⟨hlt, hc⟩ := digitValue_lt_and_decimalDigit (h.2 c (by simp))
    rw [digitsNumber_append_singleton]
    by_cases hnil : cs = []
    · rw [hnil, decimalDigits, if_pos (by simpa [digitsNumber] using hlt)]
      simp [digitsNumber, hc]
    · rw [List.head?_append_of_ne_nil _ hnil] at hzero
      have hcs := ih ⟨hnil, fun d hd => h.2 d (List.mem_append_left _ hd)⟩ hzero
      have hpos : digitsNumber cs ≠ 0 := fun hnumber => by
        rw [hnumber, decimalDigits, if_pos (by omega)] at hcs
        exact hzero (hcs ▸ rfl)
      have hlast : (10 * digitsNumber cs + digitValue c) / 10 = digitsNumber cs ∧
          (10 * digitsNumber cs + digitValue c) % 10 = digitValue c := by omega
      rw [decimalDigits, if_neg (by omega), hlast.1, hlast.2, hcs, hc]

theorem isDecimal_intDigits (n : Int) : IsDecimal (intDigits n) n := by
  rcases readInt?_eq_some_iff.1 (readInt?_intDigits n) with h | ⟨digits, hplus, -⟩
  · exact h
  · rcases mem_intDigits (hplus ▸ List.mem_cons_self) with h | h
    · exact absurd h (by decide)
    · exact absurd h (by decide)

/-- The digits of a number other than zero are its only decimal form without leading zeros. -/
theorem isDecimal_and_not_beginsWithZero_iff {cs : List Char} {n : Int} (hn : n ≠ 0) :
    IsDecimal cs n ∧ ¬ BeginsWithZero cs ↔ cs = intDigits n := by
  constructor
  · rintro ⟨hdecimal, hzero⟩
    cases hdecimal with
    | unsigned hdigits =>
      have hhead : cs.head? ≠ some '0' := fun hhead =>
        have ⟨rest, hrest⟩ := List.head?_eq_some_iff.1 hhead
        hzero ⟨rest, .inl hrest⟩
      rw [intDigits, if_neg (by omega), Int.natAbs_natCast,
        decimalDigits_digitsNumber hdigits hhead]
    | @negative digits hdigits =>
      have hhead : digits.head? ≠ some '0' := fun hhead =>
        have ⟨rest, hrest⟩ := List.head?_eq_some_iff.1 hhead
        hzero ⟨rest, .inr (congrArg _ hrest)⟩
      rw [intDigits, if_pos (by omega), Int.natAbs_neg, Int.natAbs_natCast,
        decimalDigits_digitsNumber hdigits hhead]
  · rintro rfl
    have hhead : (decimalDigits n.natAbs).head? ≠ some '0' := head?_decimalDigits_ne (by omega)
    refine ⟨isDecimal_intDigits n, ?_⟩
    rintro ⟨rest, hrest⟩
    unfold intDigits at hrest
    split at hrest
    · have hdigits : decimalDigits n.natAbs = '0' :: rest := by simpa using hrest
      exact hhead (hdigits ▸ rfl)
    · rcases hrest with hrest | hrest
      · exact hhead (hrest ▸ rfl)
      · exact absurd (isDigit_of_mem_decimalDigits (hrest ▸ List.mem_cons_self)) (by decide)

end TorrentRemote.Text
