import TorrentRemote.Torrent.Name
import Mathlib.Data.List.Infix

/-!
# Where a stored name is taken apart

A text can be taken apart wherever the separator is followed by suffix characters alone.  The
separator consists of suffix characters itself, so one text may have several such places.  A stored
name is taken apart at the first of them that is followed by anything at all.

A *plain* name has no such place.  Plain names are exactly those after which a suffix can be written
so that the name is found again; the separator has no border, so a suffix cannot create a place
that begins inside the name and ends outside it.

## Main definitions

* `Name.SplitsAt` : a place at which a text can be taken apart.
* `Name.SplitsFirst` : the first such place with anything after it.
* `Name.IsPlain` : a name without any such place.

## Main results

* `Name.split?_eq_some_iff` : a text is taken apart at the first place.
* `Name.split?_append_eq_some_iff` : a suffix is found again exactly after a plain name.
* `Name.SplitsFirst.isPlain` : what stands before the first place is plain.
* `Name.SplitsAt.splitsFirst_append`, `Name.SplitsFirst.append` : the first place stays where it is
  when another suffix is added.
-/

namespace TorrentRemote.Name

/-! ### Places -/

/-- The text `cs` can be taken apart into `p` and `q`: between them stands the separator, and `q`
consists of suffix characters. -/
def SplitsAt (cs p q : List Char) : Prop :=
  cs = p ++ separator ++ q ∧ ∀ c ∈ q, isSuffixChar c

/-- A name that can nowhere be taken apart, not even before an empty suffix. -/
def IsPlain (name : String) : Prop := ∀ p q, ¬ SplitsAt name.toList p q

theorem separator_isSuffixChar : ∀ c ∈ separator, isSuffixChar c :=
  List.all_eq_true.1 (by decide : separator.all isSuffixChar)

theorem splitsAt_cons_iff {c d : Char} {cs p q : List Char} :
    SplitsAt (c :: cs) (d :: p) q ↔ c = d ∧ SplitsAt cs p q := by
  simp only [SplitsAt, List.cons_append, List.cons.injEq, and_assoc]

theorem SplitsAt.eq_append {cs p q : List Char} (h : SplitsAt cs p q) :
    cs = p ++ separator ++ q := h.1

theorem SplitsAt.isSuffixChar {cs p q : List Char} (h : SplitsAt cs p q) :
    ∀ c ∈ q, isSuffixChar c := h.2

/-- The place is determined by where it is. -/
theorem SplitsAt.eq_of_length_eq {cs p q p' q' : List Char} (h : SplitsAt cs p q)
    (h' : SplitsAt cs p' q') (hlen : p.length = p'.length) : p = p' ∧ q = q' := by
  have heq : p ++ (separator ++ q) = p' ++ (separator ++ q') := by
    rw [← List.append_assoc, ← h.eq_append, h'.eq_append, List.append_assoc]
  obtain ⟨hp, hrest⟩ := List.append_inj heq hlen
  exact ⟨hp, List.append_cancel_left hrest⟩

/-- Before a later place, the rest is not empty. -/
theorem SplitsAt.ne_nil_of_length_lt {cs p q p' q' : List Char} (h : SplitsAt cs p q)
    (h' : SplitsAt cs p' q') (hlt : p.length < p'.length) : q ≠ [] := by
  rintro rfl
  have hlen := congrArg List.length (h.eq_append.symm.trans h'.eq_append)
  simp only [List.length_append, List.length_nil] at hlen
  omega

/-- A text that can be taken apart can be so after more suffix characters have been added. -/
theorem SplitsAt.append {cs p q : List Char} (h : SplitsAt cs p q) {more : List Char}
    (hmore : ∀ c ∈ more, Name.isSuffixChar c) : SplitsAt (cs ++ more) p (q ++ more) := by
  refine ⟨by rw [h.eq_append, List.append_assoc], fun c hc => ?_⟩
  rcases List.mem_append.1 hc with hc | hc
  · exact h.isSuffixChar c hc
  · exact hmore c hc

/-! ### The first place -/

theorem suffixAt?_eq_some_iff {cs q : List Char} :
    suffixAt? cs = some q ↔ SplitsAt cs [] q ∧ q ≠ [] := by
  unfold suffixAt? SplitsAt
  cases h : separator.isPrefixOf? cs with
  | none =>
    suffices cs ≠ separator ++ q by simp [this]
    rintro rfl
    simp [List.isPrefixOf?_eq_some_iff_append_eq.2 rfl] at h
  | some rest =>
    have hcs : cs = separator ++ rest := (List.isPrefixOf?_eq_some_iff_append_eq.1 h).symm
    simp only [ite_eq_iff, Option.some.injEq, reduceCtorEq, and_false, or_false, List.all_eq_true,
      hcs, List.nil_append, List.append_cancel_left_eq]
    constructor
    · rintro ⟨⟨hne, hall⟩, rfl⟩
      exact ⟨⟨rfl, hall⟩, hne⟩
    · rintro ⟨⟨rfl, hall⟩, hne⟩
      exact ⟨⟨hne, hall⟩, rfl⟩

/-- The first place at which the text `cs` can be taken apart, into `p` and a nonempty `q`. -/
def SplitsFirst (cs p q : List Char) : Prop :=
  SplitsAt cs p q ∧ q ≠ [] ∧ ∀ p' q', SplitsAt cs p' q' → p.length ≤ p'.length

/-- A place at the beginning is the first one. -/
theorem splitsFirst_iff_of_splitsAt_nil {cs p q rest : List Char} (h : SplitsAt cs [] rest)
    (hne : rest ≠ []) : SplitsFirst cs p q ↔ p = [] ∧ q = rest := by
  constructor
  · rintro ⟨hsplit, -, hfirst⟩
    have hp : p = [] := List.eq_nil_of_length_eq_zero (Nat.le_zero.1 (hfirst [] rest h))
    exact ⟨hp, (hsplit.eq_of_length_eq h (by rw [hp])).2⟩
  · rintro ⟨rfl, rfl⟩
    exact ⟨h, hne, fun _ _ _ => Nat.zero_le _⟩

/-- Without a place at the beginning, the first place is the first one of the rest. -/
theorem splitsFirst_cons_iff {c : Char} {cs p q : List Char}
    (hnone : ∀ rest, SplitsAt (c :: cs) [] rest → rest = []) :
    SplitsFirst (c :: cs) p q ↔ ∃ p', p = c :: p' ∧ SplitsFirst cs p' q := by
  constructor
  · rintro ⟨hsplit, hne, hfirst⟩
    cases p with
    | nil => exact absurd (hnone q hsplit) hne
    | cons d p =>
      obtain ⟨rfl, hrest⟩ := splitsAt_cons_iff.1 hsplit
      refine ⟨p, rfl, hrest, hne, fun p' q' h' => ?_⟩
      exact Nat.le_of_succ_le_succ (hfirst (c :: p') q' (splitsAt_cons_iff.2 ⟨rfl, h'⟩))
  · rintro ⟨p, rfl, hrest, hne, hfirst⟩
    have hsplit : SplitsAt (c :: cs) (c :: p) q := splitsAt_cons_iff.2 ⟨rfl, hrest⟩
    refine ⟨hsplit, hne, fun p' q' h' => ?_⟩
    cases p' with
    | nil =>
      have hne' := h'.ne_nil_of_length_lt hsplit (Nat.zero_lt_succ _)
      exact absurd (hnone q' h') hne'
    | cons d p' => exact Nat.succ_le_succ (hfirst p' q' (splitsAt_cons_iff.1 h').2)

theorem eq_nil_of_suffixAt?_eq_none {cs rest : List Char} (hnone : suffixAt? cs = none)
    (h : SplitsAt cs [] rest) : rest = [] := by
  by_contra hne
  rw [suffixAt?_eq_some_iff.2 ⟨h, hne⟩] at hnone
  cases hnone

/-- A text is taken apart at the first place. -/
theorem split?_eq_some_iff {cs p q : List Char} :
    split? cs = some (p, q) ↔ SplitsFirst cs p q := by
  induction cs generalizing p q with
  | nil => simp [split?, SplitsFirst, SplitsAt, separator]
  | cons c cs ih =>
    unfold split?
    cases hat : suffixAt? (c :: cs) with
    | some rest =>
      obtain ⟨hrest, hne⟩ := suffixAt?_eq_some_iff.1 hat
      rw [splitsFirst_iff_of_splitsAt_nil hrest hne]
      simp only [Option.some.injEq, Prod.mk.injEq, eq_comm]
    | none =>
      rw [splitsFirst_cons_iff fun rest => eq_nil_of_suffixAt?_eq_none hat]
      simp only [Option.map_eq_some_iff, Prod.mk.injEq, Prod.exists, ih]
      constructor
      · rintro ⟨p', q', h, rfl, rfl⟩
        exact ⟨p', rfl, h⟩
      · rintro ⟨p', rfl, h⟩
        exact ⟨p', q, h, rfl, rfl⟩

/-- A text is not taken apart if nothing follows any place. -/
theorem split?_eq_none_iff {cs : List Char} :
    split? cs = none ↔ ∀ p q, SplitsAt cs p q → q = [] := by
  induction cs with
  | nil => simp [split?, SplitsAt, separator]
  | cons c cs ih =>
    unfold split?
    cases hat : suffixAt? (c :: cs) with
    | some rest =>
      obtain ⟨hrest, hne⟩ := suffixAt?_eq_some_iff.1 hat
      simp only [reduceCtorEq, false_iff, not_forall]
      exact ⟨[], rest, hrest, hne⟩
    | none =>
      simp only [Option.map_eq_none_iff, ih]
      constructor
      · intro h p q hsplit
        cases p with
        | nil => exact eq_nil_of_suffixAt?_eq_none hat hsplit
        | cons d p => exact h p q (splitsAt_cons_iff.1 hsplit).2
      · exact fun h p q hsplit => h (c :: p) q (splitsAt_cons_iff.2 ⟨rfl, hsplit⟩)

/-! ### A suffix after a name -/

/-- No end of the separator is also its beginning, except the whole and the empty one. -/
theorem not_prefix_separator {r s : List Char} (h : separator = r ++ s) (hr : r ≠ [])
    (hs : s ≠ []) : ¬ s <+: separator := by
  have hall : ∀ n < 7, 0 < n → ¬ separator.drop n <+: separator := by decide
  have hlen : r.length + s.length = 7 := by
    rw [← List.length_append, ← h]
    rfl
  have hs' : s = separator.drop r.length := by rw [h, List.drop_left]
  have hspos := List.length_pos_iff.2 hs
  rw [hs']
  exact hall r.length (by omega) (List.length_pos_iff.2 hr)

/-- A place that begins inside a name is a place of the name, whatever suffix follows the name. -/
theorem splitsAt_of_length_lt {name enc p q : List Char}
    (h : SplitsAt (name ++ (separator ++ enc)) p q) (hlt : p.length < name.length) :
    ∃ q', SplitsAt name p q' := by
  have heq : name ++ (separator ++ enc) = p ++ (separator ++ q) := by
    rw [h.eq_append, List.append_assoc]
  rcases List.append_eq_append_iff.1 heq with ⟨as, rfl, -⟩ | ⟨r, rfl, hrest⟩
  · simp only [List.length_append] at hlt
    omega
  · have hr : r ≠ [] := by
      rintro rfl
      simp at hlt
    rcases List.append_eq_append_iff.1 hrest with ⟨as, rfl, rfl⟩ | ⟨s, hsep, hs⟩
    · refine ⟨as, by rw [List.append_assoc], fun c hc => ?_⟩
      exact h.isSuffixChar c (List.mem_append_left _ hc)
    · by_cases hnil : s = []
      · refine ⟨[], ?_, fun c hc => absurd hc List.not_mem_nil⟩
        rw [List.append_nil, hsep, hnil, List.append_nil]
      · have hlen : s.length ≤ separator.length := by
          rw [hsep, List.length_append]
          omega
        have hpre : s <+: separator := List.prefix_of_prefix_length_le
          (hs ▸ List.prefix_append s q) (List.prefix_append separator enc) hlen
        exact absurd hpre (not_prefix_separator hsep hr hnil)

/-- Before the first place, there is none. -/
theorem SplitsFirst.isPlain {cs p q : List Char} (h : SplitsFirst cs p q) :
    IsPlain (String.ofList p) := by
  obtain ⟨hsplit, -, hfirst⟩ := h
  intro p' q' h'
  rw [String.toList_ofList] at h'
  have hmore : ∀ c ∈ separator ++ q, Name.isSuffixChar c := fun c hc =>
    (List.mem_append.1 hc).elim (separator_isSuffixChar c) (hsplit.isSuffixChar c)
  have hle := hfirst p' (q' ++ (separator ++ q)) (by
    rw [hsplit.eq_append, List.append_assoc]
    exact h'.append hmore)
  have hlen := congrArg List.length h'.eq_append
  have hsep : separator.length = 7 := rfl
  simp only [List.length_append] at hlen
  omega

/-- The first place of a text, with or without anything after it, is the first place after another
suffix was added. -/
theorem SplitsAt.splitsFirst_append {cs p q enc : List Char} (h : SplitsAt cs p q)
    (hfirst : ∀ p' q', SplitsAt cs p' q' → p.length ≤ p'.length)
    (henc : ∀ c ∈ enc, Name.isSuffixChar c) :
    SplitsFirst (cs ++ (separator ++ enc)) p (q ++ (separator ++ enc)) := by
  have hmore : ∀ c ∈ separator ++ enc, Name.isSuffixChar c := fun c hc =>
    (List.mem_append.1 hc).elim (separator_isSuffixChar c) (henc c)
  refine ⟨h.append hmore, by simp [separator], fun p' q' h' => ?_⟩
  by_contra hlt
  have hlen := congrArg List.length h.eq_append
  simp only [List.length_append] at hlen
  -- A place before the first one would begin inside the text, and so be a place of the text.
  obtain ⟨q'', hinside⟩ := splitsAt_of_length_lt h' (by omega)
  exact hlt (hfirst p' q'' hinside)

/-- Another suffix after a text with a suffix leaves the first place where it is. -/
theorem SplitsFirst.append {cs p q enc : List Char} (h : SplitsFirst cs p q)
    (henc : ∀ c ∈ enc, Name.isSuffixChar c) :
    SplitsFirst (cs ++ (separator ++ enc)) p (q ++ (separator ++ enc)) :=
  h.1.splitsFirst_append h.2.2 henc

/-- A nonempty suffix after a name is taken off again exactly if the name is plain. -/
theorem split?_append_eq_some_iff {name : String} {enc : List Char} (hne : enc ≠ [])
    (henc : ∀ c ∈ enc, isSuffixChar c) :
    split? (name.toList ++ separator ++ enc) = some (name.toList, enc) ↔ IsPlain name := by
  have hsplit : SplitsAt (name.toList ++ separator ++ enc) name.toList enc := ⟨rfl, henc⟩
  rw [split?_eq_some_iff]
  constructor
  · intro hfirst
    simpa only [String.ofList_toList] using hfirst.isPlain
  · intro hplain
    refine ⟨hsplit, hne, fun p q h => ?_⟩
    by_contra hlt
    rw [List.append_assoc] at h
    obtain ⟨q', hq'⟩ := splitsAt_of_length_lt h (by omega)
    exact hplain p q' hq'

/-- A name in which the separator does not occur is plain. -/
theorem isPlain_of_not_isInfix {name : String} (h : ¬ separator <:+: name.toList) :
    IsPlain name := fun p q hsplit => h ⟨p, q, hsplit.eq_append.symm⟩

/-- A name is plain if no part of it up to its end is the separator and encoded side data. -/
theorem isPlain_iff_all_tails {name : String} : IsPlain name ↔ name.toList.tails.all fun cs =>
    !(separator.isPrefixOf cs && (cs.drop separator.length).all isSuffixChar) := by
  simp only [List.all_eq_true, List.mem_tails, Bool.not_eq_true', Bool.and_eq_false_imp,
    List.isPrefixOf_iff_prefix, List.all_eq_false]
  constructor
  · rintro hplain cs ⟨p, hp⟩ ⟨q, rfl⟩
    by_contra! hall
    rw [List.drop_left] at hall
    exact hplain p q ⟨by rw [← hp, List.append_assoc], hall⟩
  · rintro htails p q ⟨heq, hall⟩
    have hsuffix : separator ++ q <:+ name.toList := ⟨p, by rw [heq, List.append_assoc]⟩
    obtain ⟨c, hc, hnot⟩ := htails _ hsuffix (List.prefix_append _ _)
    rw [List.drop_left] at hc
    exact hnot (hall c hc)

instance (name : String) : Decidable (IsPlain name) :=
  decidable_of_iff _ isPlain_iff_all_tails.symm

end TorrentRemote.Name
