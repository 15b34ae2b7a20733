import TorrentRemote.Text.Base64
import Mathlib.Algebra.Group.Nat.Defs
import Mathlib.Data.List.Basic

/-!
# The bits of a Base64 text

The characters of a Base64 text stand for six bits each, and in their order these are the bits of
the bytes.  Zeros fill up the last character, and equals signs the last group of four.

## Main definitions

* `Text.bits`, `Text.sextets` : the lowest bits of a number, and these in groups of six.
* `Text.IsBase64` : a text whose characters hold the bits of some bytes.

## Main results

* `Text.isBase64_base64Chars` : bytes are written as Base64.
-/

namespace TorrentRemote.Text

/-! ### Bits -/

/-- The lowest bits of a number, the highest of them first. -/
def bits : Nat → Nat → List Bool
  | 0, _ => []
  | width + 1, n => n.testBit width :: bits width n

/-- The high bits of a number are those of a quotient. -/
theorem bits_add (high low n : Nat) :
    bits (high + low) n = bits high (n / 2 ^ low) ++ bits low n := by
  induction high with
  | zero => rw [Nat.zero_add, bits, List.nil_append]
  | succ high ih =>
    rw [Nat.add_right_comm, bits, bits, ih, List.cons_append, ← Nat.testBit_div_two_pow]

/-- The low bits of a number are those of a remainder. -/
theorem bits_mod {width low : Nat} (h : width ≤ low) (n : Nat) :
    bits width (n % 2 ^ low) = bits width n := by
  induction width with
  | zero => rfl
  | succ width ih =>
    rw [bits, bits, ih (by omega), Nat.testBit_mod_two_pow, decide_eq_true (by omega),
      Bool.true_and]

/-- The bits of a number with those of another one after them. -/
theorem bits_mul_add (high a : Nat) {low b : Nat} (hb : b < 2 ^ low) :
    bits (high + low) (a * 2 ^ low + b) = bits high a ++ bits low b := by
  have hdiv : (a * 2 ^ low + b) / 2 ^ low = a := by
    rw [Nat.mul_comm, Nat.mul_add_div (Nat.two_pow_pos low), Nat.div_eq_of_lt hb, Nat.add_zero]
  have hmod : (a * 2 ^ low + b) % 2 ^ low = b := by
    rw [Nat.mul_comm, Nat.mul_add_mod, Nat.mod_eq_of_lt hb]
  rw [bits_add, hdiv, ← bits_mod (Nat.le_refl low), hmod]

/-- The bits of a number and of a byte after it. -/
theorem bits_mul_add_byte (high a : Nat) (byte : UInt8) :
    bits (high + 8) (a * 256 + byte.toNat) = bits high a ++ bits 8 byte.toNat :=
  bits_mul_add high a byte.toNat_lt

theorem bits_zero (width : Nat) : bits width 0 = List.replicate width false := by
  induction width with
  | zero => rfl
  | succ width ih => rw [bits, ih, Nat.zero_testBit, List.replicate_succ]

/-- The lowest bits of a number in groups of six, the highest of them first. -/
def sextets : Nat → Nat → List Nat
  | 0, _ => []
  | count + 1, n => sextets count (n / 64) ++ [n % 64]

theorem flatMap_bits_sextets (count n : Nat) :
    (sextets count n).flatMap (bits 6) = bits (count * 6) n := by
  induction count generalizing n with
  | zero => rw [Nat.zero_mul, sextets, bits, List.flatMap_nil]
  | succ count ih =>
    have hlow : bits 6 (n % 64) = bits 6 n := bits_mod (Nat.le_refl 6) n
    rw [sextets, List.flatMap_append, ih, List.flatMap_singleton, hlow, Nat.succ_mul]
    exact (bits_add (count * 6) 6 n).symm

theorem lt_of_mem_sextets {count n sextet : Nat} (h : sextet ∈ sextets count n) : sextet < 64 := by
  induction count generalizing n with
  | zero => cases h
  | succ count ih =>
    rcases List.mem_append.1 h with h | h
    · exact ih h
    · rw [List.mem_singleton.1 h]
      omega

/-! ### Characters -/

/-- The characters that stand for the numbers below 64, in the order of the numbers. -/
def base64Alphabet : List Char :=
  "ABCDEFGHIJKLMNOPQRSTUVWXYZabcdefghijklmnopqrstuvwxyz0123456789+/".toList

/-- A text is Base64 of some bytes.  Its characters stand for six bits each, and these are the bits
of the bytes with fewer than six zeros after them.  Fewer than four equals signs follow, which make
the number of characters a multiple of four. -/
def IsBase64 (bytes : List UInt8) (text : List Char) : Prop :=
  ∃ (numbers : List Nat) (chars : List Char) (zeros signs : Nat),
    numbers.flatMap (bits 6) =
      bytes.flatMap (fun byte => bits 8 byte.toNat) ++ List.replicate zeros false ∧ zeros < 6 ∧
    numbers.map (base64Alphabet[·]?) = chars.map some ∧
    text = chars ++ List.replicate signs '=' ∧ signs < 4 ∧ 4 ∣ text.length

theorem map_base64Alphabet_sextets (count n : Nat) :
    (sextets count n).map (base64Alphabet[·]?) = ((sextets count n).map base64Char).map some := by
  have hall : ∀ m : Fin 64, base64Alphabet[m.val]? = some (base64Char m) := by decide +kernel
  rw [List.map_map]
  exact List.map_congr_left fun sextet hmem => hall ⟨sextet, lt_of_mem_sextets hmem⟩

theorem base64Chars_one (a : UInt8) : base64Chars [a] =
    (sextets 2 (a.toNat * 16)).map base64Char ++ List.replicate 2 '=' := by
  have hlt := a.toNat_lt
  have hhigh : a.toNat * 16 / 64 % 64 = a.toNat * 16 / 64 := Nat.mod_eq_of_lt (by omega)
  simp only [sextets, List.nil_append, List.cons_append, hhigh]
  rfl

theorem base64Chars_two (a b : UInt8) : base64Chars [a, b] =
    (sextets 3 ((a.toNat * 256 + b.toNat) * 4)).map base64Char ++ List.replicate 1 '=' := by
  have ha := a.toNat_lt
  have hb := b.toNat_lt
  generalize hn : (a.toNat * 256 + b.toNat) * 4 = n
  have hhigh : n / 64 / 64 % 64 = n / 4096 := by omega
  simp only [sextets, List.nil_append, List.cons_append, hhigh]
  rw [← hn]
  rfl

theorem base64Chars_three (a b c : UInt8) (bytes : List UInt8) :
    base64Chars (a :: b :: c :: bytes) =
      (sextets 4 ((a.toNat * 256 + b.toNat) * 256 + c.toNat)).map base64Char ++
        base64Chars bytes := by
  have ha := a.toNat_lt
  have hb := b.toNat_lt
  have hc := c.toNat_lt
  generalize hn : (a.toNat * 256 + b.toNat) * 256 + c.toNat = n
  have hhigh : n / 64 / 64 / 64 % 64 = n / 262144 := by omega
  have hnext : n / 64 / 64 % 64 = n / 4096 % 64 := by omega
  simp only [sextets, List.nil_append, List.cons_append, hhigh, hnext]
  rw [← hn]
  rfl

/-- **Bytes are written as Base64.** -/
theorem isBase64_base64Chars (bytes : List UInt8) : IsBase64 bytes (base64Chars bytes) := by
  induction bytes using base64Chars.induct with
  | case1 => exact ⟨[], [], 0, 0, rfl, by decide, rfl, rfl, by decide, by decide⟩
  | case2 a =>
    refine ⟨_, _, 4, 2, ?_, by decide, map_base64Alphabet_sextets _ _, base64Chars_one a, by decide,
      ⟨1, rfl⟩⟩
    rw [flatMap_bits_sextets, List.flatMap_singleton, ← bits_zero, ← bits_mul_add 8 _ (by decide)]
    rfl
  | case3 a b =>
    refine ⟨_, _, 2, 1, ?_, by decide, map_base64Alphabet_sextets _ _, base64Chars_two a b,
      by decide, ⟨1, rfl⟩⟩
    rw [flatMap_bits_sextets, List.flatMap_cons, List.flatMap_singleton, ← bits_zero,
      ← bits_mul_add_byte, ← bits_mul_add 16 _ (by decide)]
    rfl
  | case4 a b c bytes ih =>
    obtain ⟨numbers, chars, zeros, signs, hbits, hzeros, hchars, htext, hsigns, hlength⟩ := ih
    have hthree := base64Chars_three a b c bytes
    refine ⟨sextets 4 ((a.toNat * 256 + b.toNat) * 256 + c.toNat) ++ numbers, _ ++ chars, zeros,
      signs, ?_, hzeros, ?_, by rw [hthree, htext, List.append_assoc], hsigns, ?_⟩
    · have hbytes : bits (4 * 6) ((a.toNat * 256 + b.toNat) * 256 + c.toNat) =
          bits 8 a.toNat ++ bits 8 b.toNat ++ bits 8 c.toNat := by
        rw [bits_mul_add_byte 16, bits_mul_add_byte 8]
      rw [List.flatMap_append, hbits, flatMap_bits_sextets, hbytes]
      simp only [List.flatMap_cons, List.append_assoc]
    · rw [List.map_append, map_base64Alphabet_sextets, hchars, List.map_append]
    · rw [hthree, List.length_append]
      exact Nat.dvd_add ⟨1, rfl⟩ hlength

end TorrentRemote.Text
