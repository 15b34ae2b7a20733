import TorrentRemote.Text.Blank
import TorrentRemote.Proofs.Text.Decimal
import Mathlib.Data.List.TakeWhile

/-!
# Trimming

A text of which nothing is left after trimming holds nothing but blank characters.  What is left of
a text stands between blank characters, and a word without blank characters is what is left wherever
it stands between them.

## Main results

* `Text.trim_eq_empty_iff` : the texts of which nothing is left.
* `Text.exists_eq_append_trimChars`, `Text.trimChars_between` : what is left of a text.
* `Text.trimChars_intDigits` : nothing is trimmed from a number.
-/

namespace TorrentRemote.Text

theorem trimChars_eq_nil_iff {cs : List Char} : trimChars cs = [] ↔ ∀ c ∈ cs, isBlank c := by
  rw [trimChars, List.reverse_eq_nil_iff, List.dropWhile_eq_nil_iff]
  simp only [List.mem_reverse]
  constructor
  · intro h c hc
    rw [← List.takeWhile_append_dropWhile (p := isBlank) (l := cs), List.mem_append] at hc
    rcases hc with hc | hc
    · exact List.mem_takeWhile_imp hc
    · exact h c hc
  · intro h c hc
    exact h c ((List.dropWhile_sublist isBlank).mem hc)

/-- Nothing is left of a text exactly if all of its characters are blank. -/
theorem trim_eq_empty_iff {s : String} : trim s = "" ↔ ∀ c ∈ s.toList, isBlank c := by
  rw [trim, ← trimChars_eq_nil_iff, ← String.toList_inj, String.toList_ofList]
  rfl

theorem dropWhile_isBlank_eq_self {cs : List Char} (h : ∀ c ∈ cs, ¬ isBlank c) :
    cs.dropWhile isBlank = cs := by
  cases cs with
  | nil => rfl
  | cons c cs => exact List.dropWhile_cons_of_neg (h c List.mem_cons_self)

/-- Nothing is trimmed from a text without blank characters. -/
theorem trimChars_eq_self {cs : List Char} (h : ∀ c ∈ cs, ¬ isBlank c) : trimChars cs = cs := by
  rw [trimChars, dropWhile_isBlank_eq_self h,
    dropWhile_isBlank_eq_self fun c hc => h c (List.mem_reverse.1 hc), List.reverse_reverse]

/-- What is left of a text stands between blank characters. -/
theorem exists_eq_append_trimChars (cs : List Char) : ∃ left right,
    (∀ c ∈ left, isBlank c) ∧ (∀ c ∈ right, isBlank c) ∧ cs = left ++ trimChars cs ++ right := by
  refine ⟨cs.takeWhile isBlank, ((cs.dropWhile isBlank).reverse.takeWhile isBlank).reverse,
    fun c hc => List.mem_takeWhile_imp hc,
    fun c hc => List.mem_takeWhile_imp (List.mem_reverse.1 hc), ?_⟩
  rw [trimChars, List.append_assoc, ← List.reverse_append, List.takeWhile_append_dropWhile,
    List.reverse_reverse, List.takeWhile_append_dropWhile]

/-- A word without blank characters is what is left when they surround it. -/
theorem trimChars_between {left word right : List Char} (hleft : ∀ c ∈ left, isBlank c)
    (hright : ∀ c ∈ right, isBlank c) (hword : ∀ c ∈ word, ¬ isBlank c) :
    trimChars (left ++ word ++ right) = word := by
  cases word with
  | nil =>
    rw [List.append_nil, trimChars_eq_nil_iff]
    exact fun c hc => (List.mem_append.1 hc).elim (hleft c) (hright c)
  | cons c word =>
    -- The first pass stops at the word, and the second, from the end, at the word again.
    have hfirst : (left ++ c :: word ++ right).dropWhile isBlank = c :: word ++ right := by
      rw [List.append_assoc, List.dropWhile_append_of_pos hleft, List.cons_append,
        List.dropWhile_cons_of_neg (hword c List.mem_cons_self)]
    rw [trimChars, hfirst, List.reverse_append,
      List.dropWhile_append_of_pos fun d hd => hright d (List.mem_reverse.1 hd),
      dropWhile_isBlank_eq_self fun d hd => hword d (List.mem_reverse.1 hd), List.reverse_reverse]

theorem not_isBlank_of_isDigit {c : Char} (h : c.isDigit) : ¬ isBlank c := by
  obtain ⟨hlow, hhigh⟩ := Char.isDigit_iff_toNat.1 h
  have hends : '0'.toNat = 48 ∧ '9'.toNat = 57 := ⟨rfl, rfl⟩
  simp only [isBlank, blanks, Unicode.Ranges.contains, List.any_cons, List.any_nil, Bool.or_eq_true,
    Bool.and_eq_true, decide_eq_true_eq, Bool.false_eq_true, or_false]
  omega

theorem trimChars_intDigits (n : Int) : trimChars (intDigits n) = intDigits n := by
  refine trimChars_eq_self fun c hc => ?_
  rcases mem_intDigits hc with rfl | hdigit
  · decide
  · exact not_isBlank_of_isDigit hdigit

end TorrentRemote.Text
