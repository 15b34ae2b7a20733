import TorrentRemote.Display.Table
import TorrentRemote.Proofs.Text.Lowercase
import Mathlib.Data.List.Infix

/-!
# What a filter lists

The filter of the table looks for its lower case in the lower case of names and info hashes.  A
filter that occurs in a name as it is should be found there, and it is unless it holds an open
sigma: a capital sigma at an end of the filter whose lower case depends on the letters beyond, which
the filter does not have.

## Main definitions

* `Display.Shows` : a torrent has a line in a table.
* `Display.OccursIn` : a filter that is part of the name or the info hash as it is.

## Main results

* `Display.shows_table_of_isListed` : a torrent that passes the filter has its line.
* `Display.shows_literal_matches_iff` : the filters that find whatever they occur in.
* `Display.not_shows_literal_match` : a filter that does not.
-/

namespace TorrentRemote.Display

/-! ### Texts in texts -/

theorem containsBlock_iff {part cs : List Char} : containsBlock part cs ↔ part <:+: cs := by
  induction cs with
  | nil => rw [containsBlock, List.isEmpty_iff, List.infix_nil]
  | cons c cs ih => rw [containsBlock, Bool.or_eq_true, List.isPrefixOf_iff_prefix, ih,
      List.infix_cons_iff]

theorem containsText_iff {s part : String} : containsText s part ↔ part.toList <:+: s.toList :=
  containsBlock_iff

theorem toList_lowercase (s : String) : (Text.lowercase s).toList = Text.lowerFrom [] s.toList :=
  String.toList_ofList

theorem isListed_some_iff {filter : String} {torrent : Torrent} :
    isListed (some filter) torrent ↔
      filter = "" ∨
        Text.lowerFrom [] filter.toList <:+: Text.lowerFrom [] torrent.name.toList ∨
        Text.lowerFrom [] filter.toList <:+: Text.lowerFrom [] torrent.infoHash.toList := by
  rw [isListed, Bool.or_eq_true, Bool.or_eq_true, beq_iff_eq, containsText_iff, containsText_iff,
    toList_lowercase, toList_lowercase, toList_lowercase, or_assoc]

/-! ### Lines -/

/-- A torrent has a line in a table below the headings. -/
def Shows (table : String) (torrent : Torrent) : Prop :=
  ∃ above below : List String,
    table = String.join ((header :: above ++ row torrent :: below).map (· ++ "\n"))

theorem shows_table_of_isListed {torrents : List Torrent} {filter : Option String}
    {torrent : Torrent} (hmem : torrent ∈ torrents) (hlisted : isListed filter torrent) :
    Shows (table torrents filter) torrent := by
  obtain ⟨above, below, hsplit⟩ := List.append_of_mem (List.mem_filter.2 ⟨hmem, hlisted⟩)
  refine ⟨above.map row, below.map row, ?_⟩
  rw [table, hsplit, List.map_append]
  rfl

/-- The line of headings alone is too short to have the line of a torrent. -/
theorem not_shows_table_of_not_isListed {filter : Option String} {torrent : Torrent}
    (h : ¬ isListed filter torrent) : ¬ Shows (table [torrent] filter) torrent := by
  rintro ⟨above, below, hlines⟩
  have hlength := congrArg String.length hlines
  simp [table, h, String.length_join] at hlength

/-! ### What a filter finds -/

/-- A filter that is part of the name or of the info hash as it is, capitals included. -/
def OccursIn (filter : String) (torrent : Torrent) : Prop :=
  filter.toList <:+: torrent.name.toList ∨ filter.toList <:+: torrent.infoHash.toList

variable {filter : String}

theorem isListed_of_occursIn {torrent : Torrent} (h : ¬ Text.HasOpenSigma filter.toList)
    (hin : OccursIn filter torrent) : isListed (some filter) torrent :=
  isListed_some_iff.2 (.inr (hin.imp (Text.lowerFrom_isInfix h) (Text.lowerFrom_isInfix h)))

/-- A torrent of which no more than the name is known. -/
def namedTorrent (name : String) : Torrent :=
  ⟨"", name, "", .downloading, 0, 0, "", [], 0, 0, 0, 0, 0, 0, 0, 0, 0, 0, .empty⟩

theorem exists_occursIn_not_isListed (h : Text.HasOpenSigma filter.toList) :
    ∃ torrent, OccursIn filter torrent ∧ ¬ isListed (some filter) torrent := by
  obtain ⟨text, hin, hlost⟩ := Text.exists_not_infix_of_hasOpenSigma h
  refine ⟨namedTorrent (String.ofList text), .inl (by rwa [namedTorrent, String.toList_ofList]),
    fun hlisted => hlost ?_⟩
  rcases isListed_some_iff.1 hlisted with rfl | hname | hhash
  · exact List.nil_infix
  · rwa [namedTorrent, String.toList_ofList] at hname
  · rw [List.infix_nil.1 hhash]
    exact List.nil_infix

/-- **Which filters find whatever they occur in.**  All torrents with the filter in their name or
info hash have their line in the table, in whatever list of torrents they stand, exactly if the
filter has no open sigma: its lower case is then the same in every text. -/
theorem shows_literal_matches_iff (filter : String) :
    (∀ torrents : List Torrent, ∀ torrent ∈ torrents, OccursIn filter torrent →
      Shows (table torrents (some filter)) torrent) ↔ ¬ Text.HasOpenSigma filter.toList := by
  constructor
  · intro hfinds hopen
    obtain ⟨torrent, hin, hlost⟩ := exists_occursIn_not_isListed hopen
    exact not_shows_table_of_not_isListed hlost (hfinds [torrent] torrent (by simp) hin)
  · intro hclosed torrents torrent hmem hin
    exact shows_table_of_isListed hmem (isListed_of_occursIn hclosed hin)

/-- **A filter may miss a name that it begins.**  The sigma that ends the filter is the last letter
of a word, but the one in the name is not, so one becomes `ς` and the other `σ`. -/
theorem not_shows_literal_match :
    OccursIn "ΑΣ" (namedTorrent "ΑΣΑ") ∧
    ¬ ∀ (filter : String) (torrents : List Torrent), ∀ torrent ∈ torrents,
      OccursIn filter torrent → Shows (table torrents (some filter)) torrent := by
  have hin : OccursIn "ΑΣ" (namedTorrent "ΑΣΑ") := .inl ⟨[], ['Α'], by decide⟩
  have hlost : ¬ isListed (some "ΑΣ") (namedTorrent "ΑΣΑ") := by decide +kernel
  exact ⟨hin, fun hfinds => not_shows_table_of_not_isListed hlost
    (hfinds "ΑΣ" [namedTorrent "ΑΣΑ"] _ (by simp) hin)⟩

end TorrentRemote.Display
