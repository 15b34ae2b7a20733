import TorrentRemote.Proofs.Display.Truncation
import TorrentRemote.Proofs.Text.Columns

/-!
# The column of the names

The names in the table are padded or cut to a fixed number of columns, so that the info hashes stand
below each other.  Whether a name has to be cut is decided by its width as a text, but where it is
cut by the widths of its characters one by one.  So a name that is cut takes more columns than it
should if it keeps a control character, and fewer if it keeps several characters that are drawn as
one sign.

## Main definitions

* `Display.keptPart` : what is left of a text that is cut.
* `Display.IsFitted` : a text for which both ways of counting agree.
* `Display.infoHashStart` : where the info hash begins.

## Main results

* `Display.columns_fitWidth_of_le`, `Display.columns_fitWidth_of_lt` : the width of a cell.
* `Display.infoHashes_aligned` : which info hashes stand below each other.
* `Display.not_infoHashes_aligned` : names that move the info hash.
-/

namespace TorrentRemote.Display

open Text (columns charColumns)

/-! ### Cells -/

variable {width : Nat} {s : String}

/-- What is left of a text that is cut. -/
def keptPart (width : Nat) (s : String) : List Char :=
  takeColumns charColumns (width - min width 2) s.toList

/-- A text that needs not be cut, or of which a beginning is left that is as wide as its characters
one by one. -/
def IsFitted (width : Nat) (s : String) : Prop :=
  columns s ≤ width ∨
    columns (String.ofList (keptPart width s)) = sumColumns charColumns (keptPart width s)

theorem columns_fitWidth_of_le (h : columns s ≤ width) : columns (fitWidth width s) = width := by
  rw [fitWidth, if_pos h, Text.columns_append_replicate Text.isSpacer_space, String.ofList_toList]
  omega

/-- A text that is cut takes as many columns more or less as what is left of it is wider or narrower
than its characters one by one. -/
theorem columns_fitWidth_of_lt (h : width < columns s) :
    columns (fitWidth width s) + sumColumns charColumns (keptPart width s) =
      width + columns (String.ofList (keptPart width s)) := by
  have hle := sumColumns_takeColumns_le charColumns (width - min width 2) s.toList
  rw [fitWidth, if_neg (Nat.not_le.2 h), truncate,
    Text.columns_append_replicate Text.isSpacer_space,
    Text.columns_append_replicate Text.isSpacer_dot, keptPart]
  omega

theorem columns_fitWidth_eq_iff : columns (fitWidth width s) = width ↔ IsFitted width s := by
  by_cases hle : columns s ≤ width
  · exact iff_of_true (columns_fitWidth_of_le hle) (.inl hle)
  · have hcut := columns_fitWidth_of_lt (Nat.lt_of_not_le hle)
    rw [IsFitted, or_iff_right hle]
    omega

/-- Characters that are drawn alone are counted alike in both ways. -/
theorem isFitted_of_isDrawnAlone (h : ∀ c ∈ s.toList, Text.IsDrawnAlone c) : IsFitted width s :=
  .inr (Text.columns_of_isDrawnAlone fun c hc => h c ((takeColumns_isPrefix ..).subset hc))

/-! ### Lines -/

/-- The number of columns before the info hash in the line of a torrent. -/
def infoHashStart (torrent : Torrent) : Nat := columns (fitWidth nameWidth torrent.name ++ "  ")

theorem columns_append_gap (s t : String) :
    columns (s ++ "  " ++ t) = columns s + 2 + columns t := by
  have hgap : s ++ "  " ++ t = String.ofList (s.toList ++ ' ' :: ([] ++ ' ' :: t.toList)) := by
    simp [← String.toList_inj]
  rw [hgap, Text.columns_append_spacer Text.isSpacer_space,
    Text.columns_append_spacer Text.isSpacer_space, String.ofList_toList, String.ofList_toList]
  change columns s + 1 + (0 + 1 + columns t) = _
  omega

theorem infoHashStart_eq (torrent : Torrent) :
    infoHashStart torrent = columns (fitWidth nameWidth torrent.name) + 2 := by
  have hgap := columns_append_gap (fitWidth nameWidth torrent.name) ""
  rw [String.append_empty] at hgap
  exact hgap

theorem joinCells_cons_cons (cell next : String) (cells : List String) :
    joinCells (cell :: next :: cells) = cell ++ "  " ++ joinCells (next :: cells) :=
  String.intercalate_cons_cons

/-- **The info hashes stand below each other.**  The cell of a name takes exactly its columns if the
name fits or the part of it that is left is as wide as its characters one by one, and only then; so
it does whenever all characters of the name are drawn alone, wide characters and marks included.  In
the line of a torrent of that name the info hash follows the cell after two columns, whatever stands
in both, so it begins at the same column for all these names and for no others. -/
theorem infoHashes_aligned (name : String) :
    (columns (fitWidth nameWidth name) = nameWidth ↔ IsFitted nameWidth name) ∧
    ((∀ c ∈ name.toList, Text.IsDrawnAlone c) → IsFitted nameWidth name) ∧
    ∀ torrent : Torrent, torrent.name = name →
      (infoHashStart torrent = nameWidth + 2 ↔ IsFitted nameWidth name) ∧
      ∃ rest : String, row torrent = fitWidth nameWidth name ++ "  " ++ rest ∧
        (alignRight 40 torrent.infoHash).toList <+: rest.toList ∧
        columns (row torrent) = infoHashStart torrent + columns rest := by
  refine ⟨columns_fitWidth_eq_iff, isFitted_of_isDrawnAlone, ?_⟩
  rintro torrent rfl
  constructor
  · rw [infoHashStart_eq, Nat.add_right_cancel_iff, columns_fitWidth_eq_iff]
  · rw [row, joinCells_cons_cons]
    refine ⟨_, rfl, ?_, ?_⟩
    · rw [joinCells_cons_cons, String.append_assoc, String.toList_append]
      exact List.prefix_append ..
    · rw [columns_append_gap, infoHashStart_eq]

/-- A name with a tab. -/
def tabbedName : String := "xxxxxxxxxxxxxxxxxxxxxxxxxxxxxxxxxxxxa\tbyzyzyz"

/-- A name with a family that is drawn as one sign. -/
def familyName : String := "👨‍👩‍👧‍👦 xxxxxxxxxxxxxxxxxxxxxxxxxxxxxxxxxxxxxx"

/-- **Some names move the info hash.**  The cell of a name with a control character takes a column
too many, and that of a name with an emoji sequence takes columns too few. -/
theorem not_infoHashes_aligned :
    columns (fitWidth nameWidth tabbedName) = 41 ∧
    columns (fitWidth nameWidth familyName) = 34 ∧
    ¬ ∀ s : String, columns (fitWidth nameWidth s) = nameWidth := by
  have htabbed : columns (fitWidth nameWidth tabbedName) = 41 := by decide +kernel
  have hfamily : columns (fitWidth nameWidth familyName) = 34 := by decide +kernel
  refine ⟨htabbed, hfamily, fun hall => ?_⟩
  have hforty := htabbed.symm.trans (hall tabbedName)
  exact absurd hforty (by decide)

end TorrentRemote.Display
