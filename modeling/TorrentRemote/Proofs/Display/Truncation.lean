import TorrentRemote.Display.Table
import Mathlib.Algebra.GroupWithZero.Nat
import Mathlib.Data.List.Basic
import Mathlib.Data.Nat.PSub

/-!
# Cutting texts

A text that is too wide is cut before the first character that does not fit, whatever the widths of
the characters are.  Since no width is negative, the beginnings of a text that fit are those of the
part that is kept, so this is the longest one.  Dots and spaces fill up the rest.

The characters are looked at one after another, and the columns that they use are added up.  They
never exceed what may be used, so that none of the differences goes below zero.

## Main definitions

* `Display.Truncation` : the characters that are kept so far, and their columns.
* `Display.fit?` : padding and cutting with differences that must not go below zero.
* `Display.IsCut` : a text and what is left of it.

## Main results

* `Display.isPrefix_takeColumns_iff` : which beginnings of a text are kept.
* `Display.Truncation.IsWithin.run` : what is used never exceeds what may be used.
* `Display.fitWidth_truncates` : how texts are cut.
-/

namespace TorrentRemote.Display

/-! ### Beginnings of texts -/

section

variable (measure : Char → Nat) (budget : Nat)

theorem sumColumns_cons (c : Char) (cs : List Char) :
    sumColumns measure (c :: cs) = measure c + sumColumns measure cs := rfl

theorem sumColumns_eq_sum (cs : List Char) : sumColumns measure cs = (cs.map measure).sum :=
  (List.foldr_map ..).symm

theorem sumColumns_append (cs ds : List Char) :
    sumColumns measure (cs ++ ds) = sumColumns measure cs + sumColumns measure ds := by
  simp only [sumColumns_eq_sum, List.map_append, List.sum_append_nat]

theorem sumColumns_replicate (n : Nat) (c : Char) :
    sumColumns measure (List.replicate n c) = n * measure c := by
  rw [sumColumns_eq_sum, List.map_replicate, List.sum_replicate_nat]

theorem takeColumns_isPrefix (cs : List Char) : takeColumns measure budget cs <+: cs := by
  induction cs generalizing budget with
  | nil => exact List.prefix_rfl
  | cons c cs ih =>
    rw [takeColumns]
    split
    · exact (List.prefix_cons_inj c).2 (ih _)
    · exact List.nil_prefix

theorem sumColumns_takeColumns_le (cs : List Char) :
    sumColumns measure (takeColumns measure budget cs) ≤ budget := by
  induction cs generalizing budget with
  | nil => exact Nat.zero_le _
  | cons c cs ih =>
    rw [takeColumns]
    split
    · next hle =>
      have hrest := ih (budget - measure c)
      rw [sumColumns_cons]
      omega
    · exact Nat.zero_le _

variable {measure budget}

theorem sumColumns_le_of_isPrefix {part cs : List Char} (h : part <+: cs) :
    sumColumns measure part ≤ sumColumns measure cs := by
  obtain ⟨rest, rfl⟩ := h
  rw [sumColumns_append]
  exact Nat.le_add_right ..

/-- The beginnings of what is kept are those that fit. -/
theorem isPrefix_takeColumns_iff {part cs : List Char} :
    part <+: takeColumns measure budget cs ↔ part <+: cs ∧ sumColumns measure part ≤ budget := by
  constructor
  · intro h
    exact ⟨h.trans (takeColumns_isPrefix ..),
      Nat.le_trans (sumColumns_le_of_isPrefix h) (sumColumns_takeColumns_le ..)⟩
  · rintro ⟨h, hle⟩
    induction cs generalizing part budget with
    | nil => exact h
    | cons c cs ih =>
      rcases List.prefix_cons_iff.1 h with rfl | ⟨part, rfl, hpart⟩
      · exact List.nil_prefix
      · rw [sumColumns_cons] at hle
        rw [takeColumns, if_pos (by omega), List.prefix_cons_inj]
        exact ih hpart (by omega)

end

/-! ### One character after another -/

/-- The characters that are kept so far, and the columns that they use. -/
structure Truncation where
  kept : List Char
  used : Nat

namespace Truncation

variable {measure : Char → Nat} {budget : Nat} {cut next : Truncation} {c : Char}

/-- Nothing is kept yet. -/
def start : Truncation := ⟨[], 0⟩

/-- One more character is kept, unless it does not fit. -/
def step? (measure : Char → Nat) (budget : Nat) (cut : Truncation) (c : Char) :
    Option Truncation :=
  if budget < cut.used + measure c then none
  else some ⟨cut.kept ++ [c], cut.used + measure c⟩

/-- Characters are kept up to the first that does not fit. -/
def run (measure : Char → Nat) (budget : Nat) (cut : Truncation) : List Char → Truncation
  | [] => cut
  | c :: cs =>
    match cut.step? measure budget c with
    | none => cut
    | some next => next.run measure budget cs

/-- The columns that are used are those of the characters that are kept, and no more than may be
used. -/
structure IsWithin (measure : Char → Nat) (budget : Nat) (cut : Truncation) : Prop where
  used_eq : cut.used = sumColumns measure cut.kept
  used_le : cut.used ≤ budget

theorem step?_eq_some_iff : cut.step? measure budget c = some next ↔
    cut.used + measure c ≤ budget ∧
      next = ⟨cut.kept ++ [c], cut.used + measure c⟩ := by
  rw [step?]
  split_ifs with hlt
  · exact iff_of_false nofun fun h => absurd hlt (Nat.not_lt.2 h.1)
  · rw [Option.some.injEq, eq_comm, and_iff_right (Nat.le_of_not_lt hlt)]

theorem isWithin_start (measure : Char → Nat) (budget : Nat) : start.IsWithin measure budget :=
  ⟨rfl, Nat.zero_le _⟩

theorem IsWithin.step (h : cut.IsWithin measure budget)
    (hstep : cut.step? measure budget c = some next) : next.IsWithin measure budget := by
  obtain ⟨hle, rfl⟩ := step?_eq_some_iff.1 hstep
  refine ⟨?_, hle⟩
  rw [sumColumns_append, sumColumns_cons, ← h.used_eq]
  rfl

theorem IsWithin.run (h : cut.IsWithin measure budget) (cs : List Char) :
    (cut.run measure budget cs).IsWithin measure budget := by
  induction cs generalizing cut with
  | nil => exact h
  | cons c cs ih =>
    rw [Truncation.run]
    split
    · exact h
    · next hstep => exact ih (h.step hstep)

/-- What is kept in the end is what is kept at once of the columns that are left. -/
theorem kept_run (h : cut.used ≤ budget) (cs : List Char) :
    (cut.run measure budget cs).kept =
      cut.kept ++ takeColumns measure (budget - cut.used) cs := by
  induction cs generalizing cut with
  | nil => exact (List.append_nil _).symm
  | cons c cs ih =>
    rw [run, takeColumns]
    split
    · next hstep =>
      have hlt : budget < cut.used + measure c := Nat.lt_of_not_le fun hle =>
        Option.some_ne_none _ ((step?_eq_some_iff.2 ⟨hle, rfl⟩).symm.trans hstep)
      rw [if_neg (by omega), List.append_nil]
    · next hstep =>
      obtain ⟨hle, rfl⟩ := step?_eq_some_iff.1 hstep
      rw [if_pos (by omega), ih hle, List.append_assoc, Nat.sub_add_eq]
      rfl

theorem run_start (measure : Char → Nat) (budget : Nat) (cs : List Char) :
    start.run measure budget cs =
      ⟨takeColumns measure budget cs, sumColumns measure (takeColumns measure budget cs)⟩ := by
  have hkept : (start.run measure budget cs).kept = takeColumns measure budget cs :=
    kept_run (Nat.zero_le budget) cs
  have hused := ((isWithin_start measure budget).run cs).used_eq
  rw [← hkept, ← hused]

end Truncation

/-! ### Padding and cutting -/

/-- A text padded or cut to `width` columns, with the number of columns that it takes as a text.  A
difference that goes below zero gives none. -/
def fit? (measure : Char → Nat) (columns width : Nat) (cs : List Char) : Option (List Char) :=
  if columns ≤ width then do
    let spaces ← width.psub columns
    return cs ++ List.replicate spaces ' '
  else do
    let dots := min width 2
    let budget ← width.psub dots
    let cut := Truncation.start.run measure budget cs
    let spaces ← budget.psub cut.used
    return cut.kept ++ List.replicate dots '.' ++ List.replicate spaces ' '

/-- What is left of a text that is cut to `width` columns: its longest beginning that leaves room
for the dots, the dots, and spaces.  Dots and spaces count as one column each. -/
structure IsCut (measure : Char → Nat) (width : Nat) (cs result kept : List Char) (spaces : Nat) :
    Prop where
  result_eq : result = kept ++ List.replicate (min width 2) '.' ++ List.replicate spaces ' '
  kept_isPrefix : kept <+: cs
  kept_le : sumColumns measure kept + min width 2 ≤ width
  longest (part : List Char) : part <+: cs → sumColumns measure part + min width 2 ≤ width →
    part <+: kept
  columns_eq : sumColumns measure kept + min width 2 + spaces = width

section

variable {measure : Char → Nat} {columns width spaces : Nat} {cs result kept : List Char}

/-- No difference goes below zero. -/
theorem fit?_eq_some (measure : Char → Nat) (columns width : Nat) (cs : List Char) :
    fit? measure columns width cs = some
      (if columns ≤ width then cs ++ List.replicate (width - columns) ' '
      else truncate measure width cs) := by
  rw [fit?]
  split_ifs with hfits
  · rw [Nat.psub_eq_sub hfits]
    rfl
  · have hbudget : width.psub (min width 2) = some (width - min width 2) :=
      Nat.psub_eq_sub (Nat.min_le_left ..)
    have hspaces := Nat.psub_eq_sub
      ((Truncation.isWithin_start measure (width - min width 2)).run cs).used_le
    simp only [hbudget, Option.bind_eq_bind, Option.bind_some, hspaces]
    simp only [Truncation.run_start]
    rfl

theorem isCut_truncate (measure : Char → Nat) (width : Nat) (cs : List Char) :
    IsCut measure width cs (truncate measure width cs)
      (takeColumns measure (width - min width 2) cs)
      (width - min width 2 -
        sumColumns measure (takeColumns measure (width - min width 2) cs)) := by
  have hle := sumColumns_takeColumns_le measure (width - min width 2) cs
  exact
    { result_eq := rfl
      kept_isPrefix := takeColumns_isPrefix ..
      kept_le := by omega
      longest := fun part hpart hfits => isPrefix_takeColumns_iff.2 ⟨hpart, by omega⟩
      columns_eq := by omega }

theorem IsCut.sumColumns_eq (h : IsCut measure width cs result kept spaces)
    (hdot : measure '.' = 1) (hspace : measure ' ' = 1) : sumColumns measure result = width := by
  have hcolumns := h.columns_eq
  rw [h.result_eq, sumColumns_append, sumColumns_append, sumColumns_replicate,
    sumColumns_replicate, hdot, hspace]
  omega

/-- **Texts are cut after the longest beginning that fits.**  Whatever the widths of the characters
and of the text are, none of the differences that are taken to pad or to cut it goes below zero.  If
the text is too wide, what is left is its longest beginning, in whole characters, that leaves room
for two dots or the width if it is less, then the dots, and then the spaces that fill up the width.
The cells of a table are padded and cut in this way. -/
theorem fitWidth_truncates (measure : Char → Nat) (columns width : Nat) (s : String) :
    (∃ result, fit? measure columns width s.toList = some result ∧
      (width < columns → result = truncate measure width s.toList ∧
        ∃ kept spaces, IsCut measure width s.toList result kept spaces ∧
          (measure '.' = 1 → measure ' ' = 1 → sumColumns measure result = width))) ∧
    fit? Text.charColumns (Text.columns s) width s.toList = some (fitWidth width s).toList := by
  constructor
  · refine ⟨_, fit?_eq_some .., fun hwide => ?_⟩
    rw [if_neg (Nat.not_le.2 hwide)]
    exact ⟨rfl, _, _, isCut_truncate .., (isCut_truncate ..).sumColumns_eq⟩
  · rw [fit?_eq_some, fitWidth, Option.some.injEq, apply_ite String.toList, String.toList_ofList,
      String.toList_ofList]

/-- Of four wide characters, one fits into five columns beside the dots, and a space is left. -/
theorem fitWidth_truncates_wide :
    Text.columns "中文字幕" = 8 ∧ fitWidth 5 "中文字幕" = "中.. " ∧
    (∃ kept spaces, IsCut Text.charColumns 5 "中文字幕".toList "中.. ".toList kept spaces) ∧
    sumColumns Text.charColumns "中.. ".toList = 5 := by
  have hcolumns : Text.columns "中文字幕" = 8 := by decide +kernel
  have hcell : fitWidth 5 "中文字幕" = "中.. " := by decide +kernel
  obtain ⟨⟨result, hresult, hcut⟩, hfit⟩ := fitWidth_truncates Text.charColumns 8 5 "中文字幕"
  rw [hcolumns, hcell, hresult, Option.some.injEq] at hfit
  subst hfit
  obtain ⟨-, kept, spaces, hcut, hsum⟩ := hcut (by decide)
  exact ⟨hcolumns, hcell, ⟨kept, spaces, hcut⟩, hsum (by decide +kernel) (by decide +kernel)⟩

end

end TorrentRemote.Display
