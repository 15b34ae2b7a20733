import TorrentRemote.Proofs.Display.Filter
import TorrentRemote.Proofs.Display.NameColumn
import TorrentRemote.Proofs.Text.Decimal

/-!
# The lines of the table

Every line of the table ends with a line feed and holds no other: what pads and cuts a cell brings
none in, and sizes and signs for states have none.  So if the texts of the torrents have none, the
table is taken apart at its line feeds into the headings, the lines of the torrents that pass the
filter, in order, and the empty text behind the last line feed.

## Main definitions

* `Display.linesOf`, `Display.rowsOf` : the lines of a text, and those below the headings.
* `Display.IsOneLine`, `Display.HasOneLineTexts` : texts and torrents without line feeds.
* `Display.Passes` : the torrents that pass a filter.

## Main results

* `Display.linesOf_join` : lines that were put together are found again.
* `Display.isOneLine_row` : the line of a torrent is one line.
* `Display.table_has_row_for_each` : the lines of a table.
-/

namespace TorrentRemote.Display

variable {s t : String} {cs : List Char} {width : Nat}

/-! ### Lines of a text -/

/-- The parts of a text between its line feeds. -/
def linesOf (s : String) : List String := (s.split '\n').toList.map String.Slice.copy

/-- The lines of a table below the headings. -/
def rowsOf (table : String) : List String := (linesOf table).tail.dropLast

/-- A text without line feeds. -/
def IsOneLine (s : String) : Prop := '\n' ∉ s.toList

instance (s : String) : Decidable (IsOneLine s) := inferInstanceAs (Decidable (_ ∉ _))

theorem join_eq_intercalate (lines : List String) :
    String.join (lines.map (· ++ "\n")) = String.intercalate "\n" (lines ++ [""]) := by
  induction lines with
  | nil => rfl
  | cons line lines ih =>
    rw [List.map_cons, String.join_cons, ih, List.cons_append,
      String.intercalate_cons_of_ne_nil (by simp)]

/-- Lines that were put together are found again, and after them the empty text that follows the
last line feed. -/
theorem linesOf_join {lines : List String} (h : ∀ line ∈ lines, IsOneLine line) :
    linesOf (String.join (lines.map (· ++ "\n"))) = lines ++ [""] := by
  have hall : ∀ line ∈ lines ++ [""], '\n' ∉ line.toList := by
    intro line hline
    rcases List.mem_append.1 hline with hline | hline
    · exact h line hline
    · rw [List.mem_singleton.1 hline]
      decide
  have hsplit := String.toList_split_intercalate hall
  rw [if_neg (by simp)] at hsplit
  rw [join_eq_intercalate]
  exact hsplit

/-! ### Cells -/

theorem isOneLine_append : IsOneLine (s ++ t) ↔ IsOneLine s ∧ IsOneLine t := by
  rw [IsOneLine, String.toList_append, List.mem_append, not_or]
  rfl

theorem isOneLine_ofList : IsOneLine (String.ofList cs) ↔ '\n' ∉ cs := by
  rw [IsOneLine, String.toList_ofList]

theorem not_mem_replicate {c : Char} (hc : c ≠ '\n') (n : Nat) : '\n' ∉ List.replicate n c :=
  fun hmem => hc (List.eq_of_mem_replicate hmem).symm

theorem isOneLine_alignRight (h : IsOneLine s) : IsOneLine (alignRight width s) := by
  rw [alignRight, isOneLine_ofList, List.mem_append, not_or]
  exact ⟨not_mem_replicate (by decide) _, h⟩

theorem isOneLine_alignLeft (h : IsOneLine s) : IsOneLine (alignLeft width s) := by
  rw [alignLeft, isOneLine_ofList, List.mem_append, not_or]
  exact ⟨h, not_mem_replicate (by decide) _⟩

theorem isOneLine_fitWidth (h : IsOneLine s) : IsOneLine (fitWidth width s) := by
  -- A cut leaves a beginning of the name.
  have hkept : ∀ budget, '\n' ∉ takeColumns Text.charColumns budget s.toList := fun budget hmem =>
    h ((takeColumns_isPrefix ..).subset hmem)
  unfold fitWidth
  split
  · rw [isOneLine_ofList, List.mem_append, not_or]
    exact ⟨h, not_mem_replicate (by decide) _⟩
  · rw [isOneLine_ofList, truncate, List.mem_append, List.mem_append, not_or, not_or]
    exact ⟨⟨hkept _, not_mem_replicate (by decide) _⟩, not_mem_replicate (by decide) _⟩

theorem ne_lineFeed_of_isDigit {c : Char} (h : c.isDigit) : c ≠ '\n' := by
  rintro rfl
  exact absurd h (by decide)

theorem not_mem_decimalDigits (n : Nat) : '\n' ∉ Text.decimalDigits n := fun hmem =>
  ne_lineFeed_of_isDigit (Text.isDigit_of_mem_decimalDigits hmem) rfl

theorem isOneLine_showNat (n : Nat) : IsOneLine (Text.showNat n) :=
  isOneLine_ofList.2 (not_mem_decimalDigits n)

theorem isOneLine_twoPlaces (n : Nat) : IsOneLine (twoPlaces n) := by
  have hdigit : ∀ m, Text.decimalDigit (m % 10) ≠ '\n' := fun m =>
    ne_lineFeed_of_isDigit (Text.isDigit_decimalDigit (Nat.mod_lt m (by decide)))
  rw [twoPlaces, isOneLine_ofList, List.mem_append, not_or]
  refine ⟨not_mem_decimalDigits _, ?_⟩
  simp [(hdigit _).symm]

theorem isOneLine_size (bytes : Int64) : IsOneLine (size bytes) := by
  have hsymbol : ∀ unit : SizeUnit, IsOneLine unit.symbol := fun unit => by
    cases unit <;> decide
  have hnumber : ∀ shown : ShownSize, IsOneLine shown.number := fun shown => by
    unfold ShownSize.number
    split
    · exact isOneLine_showNat _
    · exact isOneLine_twoPlaces _
  unfold size
  split
  · decide
  · rw [ShownSize.text, isOneLine_append, isOneLine_append]
    exact ⟨⟨hnumber _, by decide⟩, hsymbol _⟩

theorem isOneLine_icon (torrent : Torrent) : IsOneLine (icon torrent) := by
  unfold icon
  split
  · split
    · decide
    · rw [isOneLine_append, isOneLine_append]
      exact ⟨⟨by decide, isOneLine_showNat _⟩, by decide⟩
  all_goals decide

theorem isOneLine_joinCells {cells : List String} (h : ∀ cell ∈ cells, IsOneLine cell) :
    IsOneLine (joinCells cells) := by
  induction cells with
  | nil => decide
  | cons cell cells ih =>
    rw [List.forall_mem_cons] at h
    cases cells with
    | nil =>
      rw [joinCells, String.intercalate_singleton]
      exact h.1
    | cons next cells =>
      rw [joinCells_cons_cons, isOneLine_append, isOneLine_append]
      exact ⟨⟨h.1, by decide⟩, ih h.2⟩

theorem isOneLine_header : IsOneLine header := by
  refine isOneLine_joinCells ?_
  simp only [List.forall_mem_cons, List.not_mem_nil, false_imp_iff, implies_true, and_true]
  exact ⟨isOneLine_alignLeft (by decide), isOneLine_alignRight (by decide),
    isOneLine_alignRight (by decide), isOneLine_alignRight (by decide),
    isOneLine_alignRight (by decide), isOneLine_alignRight (by decide),
    isOneLine_alignRight (by decide)⟩

/-! ### Lines of torrents -/

/-- A torrent whose texts in the table have no line feeds. -/
structure HasOneLineTexts (torrent : Torrent) : Prop where
  name : IsOneLine torrent.name
  infoHash : IsOneLine torrent.infoHash
  trackerDomain : IsOneLine torrent.trackerDomain

theorem isOneLine_row {torrent : Torrent} (h : HasOneLineTexts torrent) :
    IsOneLine (row torrent) := by
  have hspeed : ∀ speed : Int64, IsOneLine (alignRight 10 (size speed) ++ "/s") := fun speed =>
    isOneLine_append.2 ⟨isOneLine_alignRight (isOneLine_size _), by decide⟩
  refine isOneLine_joinCells ?_
  simp only [List.forall_mem_cons, List.not_mem_nil, false_imp_iff, implies_true, and_true]
  exact ⟨isOneLine_fitWidth h.name, isOneLine_alignRight h.infoHash,
    isOneLine_alignRight (isOneLine_size _), isOneLine_alignRight (isOneLine_icon _), hspeed _,
    hspeed _, isOneLine_alignRight h.trackerDomain⟩

theorem fitWidth_isPrefix_row (torrent : Torrent) :
    (fitWidth nameWidth torrent.name).toList <+: (row torrent).toList := by
  rw [row, joinCells_cons_cons, String.append_assoc, String.toList_append]
  exact List.prefix_append ..

/-! ### Lines of tables -/

variable {filter : Option String} {torrents : List Torrent}

/-- A torrent passes a filter if there is none or an empty one, or if the lower case of the filter
is part of the lower case of its name or info hash. -/
def Passes (filter : Option String) (torrent : Torrent) : Prop :=
  filter = none ∨ filter = some "" ∨ ∃ part, filter = some part ∧
    ((Text.lowercase part).toList <:+: (Text.lowercase torrent.name).toList ∨
      (Text.lowercase part).toList <:+: (Text.lowercase torrent.infoHash).toList)

theorem isListed_iff_passes {torrent : Torrent} :
    isListed filter torrent ↔ Passes filter torrent := by
  cases filter with
  | none => simp [isListed, Passes]
  | some part => simp [isListed_some_iff, Passes, toList_lowercase]

instance (filter : Option String) (torrent : Torrent) : Decidable (Passes filter torrent) :=
  decidable_of_iff _ isListed_iff_passes

theorem linesOf_table (h : ∀ torrent ∈ torrents, HasOneLineTexts torrent) (filter : Option String) :
    linesOf (table torrents filter) =
      header :: (torrents.filter fun torrent => Passes filter torrent).map row ++ [""] := by
  have hfilter : torrents.filter (isListed filter) =
      torrents.filter fun torrent => Passes filter torrent :=
    List.filter_congr fun torrent _ => by
      rw [Bool.eq_iff_iff, isListed_iff_passes, decide_eq_true_eq]
  rw [table, hfilter, linesOf_join]
  intro line hline
  rcases List.mem_cons.1 hline with rfl | hline
  · exact isOneLine_header
  · obtain ⟨torrent, htorrent, rfl⟩ := List.mem_map.1 hline
    exact isOneLine_row (h torrent (List.mem_of_mem_filter htorrent))

theorem rowsOf_table (h : ∀ torrent ∈ torrents, HasOneLineTexts torrent) (filter : Option String) :
    rowsOf (table torrents filter) =
      (torrents.filter fun torrent => Passes filter torrent).map row := by
  rw [rowsOf, linesOf_table h, List.cons_append, List.tail_cons, List.dropLast_concat]

/-- **The table has one line for each torrent that passes the filter.**  For torrents without line
feeds in their texts, the lines of the table are the headings, then the lines of the torrents that
pass the filter, in order, and then an empty text.  The line of a torrent is told by this torrent
alone and begins with its name, padded or cut.  So the lines under a filter are some of the lines
without a filter, in order, and those of a list of torrents after another one stand below those of
the other. -/
theorem table_has_row_for_each (h : ∀ torrent ∈ torrents, HasOneLineTexts torrent)
    (filter : Option String) :
    linesOf (table torrents filter) =
      header :: (torrents.filter fun torrent => Passes filter torrent).map row ++ [""] ∧
    (∀ torrent, (fitWidth nameWidth torrent.name).toList <+: (row torrent).toList) ∧
    (rowsOf (table torrents filter)).Sublist (rowsOf (table torrents none)) ∧
    ∀ more : List Torrent, (∀ torrent ∈ more, HasOneLineTexts torrent) →
      linesOf (table (torrents ++ more) filter) =
        header :: rowsOf (table torrents filter) ++ rowsOf (table more filter) ++ [""] := by
  refine ⟨linesOf_table h filter, fitWidth_isPrefix_row, ?_, fun more hmore => ?_⟩
  · have hall : torrents.filter (fun torrent => Passes none torrent) = torrents :=
      List.filter_eq_self.2 fun torrent _ => decide_eq_true (.inl rfl)
    rw [rowsOf_table h, rowsOf_table h, hall]
    exact List.filter_sublist.map row
  · have hboth : ∀ torrent ∈ torrents ++ more, HasOneLineTexts torrent := fun torrent htorrent =>
      (List.mem_append.1 htorrent).elim (h torrent) (hmore torrent)
    rw [linesOf_table hboth, rowsOf_table h, rowsOf_table hmore, List.filter_append,
      List.map_append, List.cons_append, List.cons_append, List.cons_append]

/-- A filter in capitals keeps one of two torrents, and a carriage return is no line feed. -/
theorem table_has_row_for_each_film :
    linesOf (table [namedTorrent "Film\r", namedTorrent "Other"] (some "FILM")) =
      [header, row (namedTorrent "Film\r"), ""] ∧
    linesOf (table ([namedTorrent "Film\r"] ++ [namedTorrent "Other"]) none) =
      [header] ++ rowsOf (table [namedTorrent "Film\r"] none) ++
        rowsOf (table [namedTorrent "Other"] none) ++ [""] := by
  have hfilm : HasOneLineTexts (namedTorrent "Film\r") := ⟨by decide, by decide, by decide⟩
  have hother : HasOneLineTexts (namedTorrent "Other") := ⟨by decide, by decide, by decide⟩
  have hkept : [namedTorrent "Film\r", namedTorrent "Other"].filter
      (fun torrent => Passes (some "FILM") torrent) = [namedTorrent "Film\r"] := by decide +kernel
  constructor
  · rw [(table_has_row_for_each (by simp [hfilm, hother]) (some "FILM")).1, hkept]
    rfl
  · exact (table_has_row_for_each (by simp [hfilm]) none).2.2.2 [namedTorrent "Other"]
      (by simp [hother])

end TorrentRemote.Display
