import TorrentRemote.Number.Rounding
import Mathlib.Algebra.Group.Nat.Defs
import Mathlib.Data.Nat.Basic

/-!
# Laws of rounding

A quotient is rounded to at most `k` if it lies below the middle of `k` and `k + 1`, and also in the
middle if `k` is even.  So rounding keeps the order, leaves whole quotients as they are and goes no
further than half a unit.  A number becomes a double by rounding a quotient too, by a power of two
that depends on its length only, and the powers of two are doubles; so this keeps the order as well.

## Main definitions

* `Number.lastPlace` : the distance of the doubles around a number.

## Main results

* `Number.roundHalfEven_le_iff` : which quotients are rounded to at most a number.
* `Number.roundHalfEven_mono`, `Number.roundToDouble_mono` : rounding keeps the order.
* `Number.le_roundToDouble_iff` : small bounds hold of a number and of its double alike.
-/

namespace TorrentRemote.Number

/-! ### Quotients -/

section

variable {num num' den k : Nat}

/-- Twice the middle of two neighbouring multiples. -/
theorem twice_middle_eq (k den : Nat) : (2 * k + 1) * den = 2 * (k * den) + den := by
  rw [Nat.add_one_mul, Nat.mul_assoc]

theorem roundHalfEven_le_iff (hden : 0 < den) : roundHalfEven num den ≤ k ↔
    2 * num < (2 * k + 1) * den ∨ 2 * num = (2 * k + 1) * den ∧ k % 2 = 0 := by
  have hnum : num / den * den + num % den = num := Nat.div_add_mod' ..
  have hrest : num % den < den := Nat.mod_lt _ hden
  rw [roundHalfEven, twice_middle_eq]
  generalize num / den = quotient, num % den = rest at hnum hrest ⊢
  subst hnum
  rcases Nat.lt_trichotomy k quotient with hlt | rfl | hgt
  · have hmul : (k + 1) * den ≤ quotient * den := Nat.mul_le_mul_right den hlt
    rw [Nat.add_one_mul] at hmul
    split_ifs <;> omega
  · split_ifs <;> omega
  · have hmul : (quotient + 1) * den ≤ k * den := Nat.mul_le_mul_right den hgt
    rw [Nat.add_one_mul] at hmul
    split_ifs <;> omega

theorem roundHalfEven_mono (hden : 0 < den) (h : num ≤ num') :
    roundHalfEven num den ≤ roundHalfEven num' den := by
  have hself := (@roundHalfEven_le_iff num' den _ hden).1 le_rfl
  rw [roundHalfEven_le_iff hden]
  omega

/-- A whole quotient stays as it is. -/
theorem roundHalfEven_mul (hden : 0 < den) (k : Nat) : roundHalfEven (k * den) den = k := by
  have hwhole : k * den / den = k ∧ k * den % den = 0 :=
    ⟨Nat.mul_div_cancel k hden, Nat.mul_mod_left k den⟩
  rw [roundHalfEven, hwhole.1, hwhole.2, if_pos (by omega)]

theorem roundHalfEven_le_of_le_mul (hden : 0 < den) (h : num ≤ k * den) :
    roundHalfEven num den ≤ k :=
  roundHalfEven_mul hden k ▸ roundHalfEven_mono hden h

theorem le_roundHalfEven_of_mul_le (hden : 0 < den) (h : k * den ≤ num) :
    k ≤ roundHalfEven num den :=
  roundHalfEven_mul hden k ▸ roundHalfEven_mono hden h

/-- A quotient is rounded by half a unit at most. -/
theorem roundHalfEven_near (num : Nat) (hden : 0 < den) :
    2 * num ≤ 2 * (roundHalfEven num den * den) + den ∧
      2 * (roundHalfEven num den * den) ≤ 2 * num + den := by
  have hself := (@roundHalfEven_le_iff num den _ hden).1 le_rfl
  rw [twice_middle_eq] at hself
  refine ⟨by omega, ?_⟩
  cases hround : roundHalfEven num den with
  | zero => omega
  | succ k =>
    -- It was not rounded to less, so it does not lie below the middle under it.
    have hnot := mt (@roundHalfEven_le_iff num den k hden).2 (by omega)
    rw [twice_middle_eq] at hnot
    rw [Nat.add_one_mul k]
    omega

end

/-! ### Doubles -/

section

variable {n m : Nat}

/-- What the last of the 53 bits counts, for a number that has more. -/
def lastPlace (n : Nat) : Nat := 2 ^ (n.log2 - 52)

theorem lastPlace_pos (n : Nat) : 0 < lastPlace n := Nat.two_pow_pos _

theorem roundToDouble_of_lt (h : n < 2 ^ 53) : roundToDouble n = n := if_pos h

theorem roundToDouble_of_le (h : 2 ^ 53 ≤ n) :
    roundToDouble n = roundHalfEven n (lastPlace n) * lastPlace n :=
  if_neg (Nat.not_lt.2 h)

theorem two_pow_log2_eq (h : 2 ^ 53 ≤ n) : 2 ^ n.log2 = 2 ^ 52 * lastPlace n := by
  have hlog : 53 ≤ n.log2 := (Nat.le_log2 (by omega)).2 h
  rw [lastPlace, ← Nat.pow_add]
  congr 1
  omega

/-- The powers of two around a number are around its double too. -/
theorem roundToDouble_between (h : n ≠ 0) :
    2 ^ n.log2 ≤ roundToDouble n ∧ roundToDouble n ≤ 2 ^ (n.log2 + 1) := by
  have hlow := Nat.log2_self_le h
  have hhigh := Nat.le_of_lt (Nat.lt_log2_self (n := n))
  rcases Nat.lt_or_ge n (2 ^ 53) with hlt | hge
  · rw [roundToDouble_of_lt hlt]
    exact ⟨hlow, hhigh⟩
  · have hpos := lastPlace_pos n
    rw [Nat.pow_succ, two_pow_log2_eq hge, Nat.mul_right_comm] at hhigh
    rw [two_pow_log2_eq hge] at hlow
    rw [Nat.pow_succ, two_pow_log2_eq hge, Nat.mul_right_comm, roundToDouble_of_le hge]
    exact ⟨Nat.mul_le_mul_right _ (le_roundHalfEven_of_mul_le hpos hlow),
      Nat.mul_le_mul_right _ (roundHalfEven_le_of_le_mul hpos hhigh)⟩

theorem roundToDouble_mono (h : n ≤ m) : roundToDouble n ≤ roundToDouble m := by
  rcases Nat.eq_zero_or_pos n with rfl | hpos
  · rw [roundToDouble_of_lt (by omega)]
    exact Nat.zero_le _
  have hlog : n.log2 ≤ m.log2 :=
    (Nat.le_log2 (by omega)).2 (Nat.le_trans (Nat.log2_self_le (by omega)) h)
  rcases Nat.lt_or_eq_of_le hlog with hlt | heq
  · calc roundToDouble n ≤ 2 ^ (n.log2 + 1) := (roundToDouble_between (by omega)).2
      _ ≤ 2 ^ m.log2 := Nat.pow_le_pow_right (by omega) hlt
      _ ≤ roundToDouble m := (roundToDouble_between (by omega)).1
  · rcases Nat.lt_or_ge m (2 ^ 53) with hsmall | hlarge
    · rwa [roundToDouble_of_lt hsmall, roundToDouble_of_lt (by omega)]
    · -- Numbers of one length are rounded to multiples of the same number.
      have hn : 2 ^ 53 ≤ n := (Nat.le_log2 (by omega)).1 (heq ▸ (Nat.le_log2 (by omega)).2 hlarge)
      have hplace : lastPlace n = lastPlace m := by rw [lastPlace, heq, lastPlace]
      rw [roundToDouble_of_le hn, roundToDouble_of_le hlarge, hplace]
      exact Nat.mul_le_mul_right _ (roundHalfEven_mono (lastPlace_pos m) h)

/-- A number up to the first one that is not its own double does not exceed a number exactly if it
does not exceed the double of this. -/
theorem le_roundToDouble_iff (h : m ≤ 2 ^ 53) : m ≤ roundToDouble n ↔ m ≤ n := by
  rcases Nat.lt_or_ge n (2 ^ 53) with hlt | hge
  · rw [roundToDouble_of_lt hlt]
  · have hlow : 2 ^ 53 ≤ roundToDouble n :=
      calc 2 ^ 53 ≤ 2 ^ n.log2 :=
            Nat.pow_le_pow_right (by omega) ((Nat.le_log2 (by omega)).2 hge)
        _ ≤ roundToDouble n := (roundToDouble_between (by omega)).1
    exact iff_of_true (Nat.le_trans h hlow) (Nat.le_trans h hge)

/-- A number below `2 ^ 63` differs by 512 at most from its double. -/
theorem roundToDouble_near (hge : 2 ^ 53 ≤ n) (hlt : n < 2 ^ 63) :
    n ≤ roundToDouble n + 512 ∧ roundToDouble n ≤ n + 512 := by
  have hlog : n.log2 < 63 := (Nat.log2_lt (by omega)).2 hlt
  have hplace : lastPlace n ≤ 2 ^ 10 := Nat.pow_le_pow_right (by omega) (by omega)
  have hnear := roundHalfEven_near n (lastPlace_pos n)
  rw [roundToDouble_of_le hge]
  omega

end

end TorrentRemote.Number
