import TorrentRemote.Proofs.Torrent.Name

/-!
# Canonical stored names

A stored name that was read and is written again need not be what it was: tokens are put in the
order of their keys, of several tokens with one key one remains, and numbers lose their leading
zeros.  Exactly the names without encoded side data and those whose encoded side data is *canonical*
stay the same: one or more tokens, each of a key and a number other than zero without leading zeros,
in ascending order of the keys.

## Main definitions

* `Name.IsCanonicalNumber`, `Name.IsCanonical` : numbers and encoded side data in canonical form.

## Main results

* `Name.isCanonical_iff_exists_suffixOf` : canonical is what is written for side data.
* `Name.encode_decode_eq_self_iff` : exactly the stored names that are written again as they were.
-/

namespace TorrentRemote.Name

/-- The decimal form of a 64-bit integer other than zero, without leading zeros. -/
def IsCanonicalNumber (cs : List Char) : Prop :=
  ∃ value : Int64, value ≠ 0 ∧ Text.IsDecimal cs value.toInt ∧ ¬ Text.BeginsWithZero cs

/-- Encoded side data of one or more tokens, each of which consists of a key and a canonical number,
in ascending order of the keys.  As keys are made of ASCII characters, this is also the order of
their bytes. -/
def IsCanonical (suffix : List Char) : Prop :=
  ∃ fields : List (String × List Char), fields ≠ [] ∧
    (∀ field ∈ fields, IsKey field.1 ∧ IsCanonicalNumber field.2) ∧
    (fields.Pairwise fun a b => a.1 < b.1) ∧
    suffix = ['.'].intercalate (fields.map fun field => field.1.toList ++ '_' :: field.2)

/-- The key of an entry and the digits of its number. -/
def fieldsOf (entry : String × Int64) : String × List Char :=
  (entry.1, Text.intDigits entry.2.toInt)

theorem isCanonicalNumber_iff {cs : List Char} :
    IsCanonicalNumber cs ↔ ∃ value : Int64, value ≠ 0 ∧ cs = Text.intDigits value.toInt := by
  refine exists_congr fun value => and_congr_right fun hne => ?_
  have hint : value.toInt ≠ 0 := fun h => hne (Int64.toInt_inj.1 h)
  exact Text.isDecimal_and_not_beginsWithZero_iff hint

/-- Keys and canonical numbers are those of entries. -/
theorem exists_map_fieldsOf {fields : List (String × List Char)}
    (h : ∀ field ∈ fields, IsKey field.1 ∧ IsCanonicalNumber field.2) :
    ∃ entries : List (String × Int64), entries.map fieldsOf = fields ∧
      ∀ entry ∈ entries, IsKey entry.1 ∧ entry.2 ≠ 0 := by
  induction fields with
  | nil => exact ⟨[], rfl, by simp⟩
  | cons field fields ih =>
    obtain ⟨entries, rfl, hentries⟩ := ih fun f hf => h f (List.mem_cons_of_mem field hf)
    obtain ⟨hkey, hnumber⟩ := h field List.mem_cons_self
    obtain ⟨value, hne, hdigits⟩ := isCanonicalNumber_iff.1 hnumber
    refine ⟨(field.1, value) :: entries, ?_, List.forall_mem_cons.2 ⟨⟨hkey, hne⟩, hentries⟩⟩
    rw [List.map_cons, fieldsOf, ← hdigits]

/-- Canonical is what is written for side data. -/
theorem isCanonical_iff_exists_suffixOf {suffix : List Char} : IsCanonical suffix ↔
    ∃ data : SideData, data.HasKeys ∧ data.nonzero.entries ≠ [] ∧ suffixOf data = suffix := by
  constructor
  · rintro ⟨fields, hne, hfields, hfieldsAscend, rfl⟩
    obtain ⟨entries, rfl, hentries⟩ := exists_map_fieldsOf hfields
    have hascend : entries.Pairwise fun a b => a.1 < b.1 := by
      rwa [List.pairwise_map] at hfieldsAscend
    have hnonzero : (SideData.mk entries hascend).nonzero = ⟨entries, hascend⟩ :=
      SideData.nonzero_eq_self fun entry hmem => (hentries entry hmem).2
    refine ⟨⟨entries, hascend⟩, fun entry hmem => (hentries entry hmem).1, ?_⟩
    rw [suffixOf, hnonzero, List.map_map]
    exact ⟨by simpa using hne, rfl⟩
  · rintro ⟨data, hkeys, hne, rfl⟩
    refine ⟨data.nonzero.entries.map fieldsOf, by simpa using hne, fun field hfield => ?_,
      List.pairwise_map.2 data.nonzero.ascending, ?_⟩
    · obtain ⟨entry, hentry, rfl⟩ := List.mem_map.1 hfield
      have hvalue := (SideData.mem_entries_nonzero.1 hentry).2
      exact ⟨isKey_of_mem_nonzero hkeys hentry, isCanonicalNumber_iff.2 ⟨entry.2, hvalue, rfl⟩⟩
    · rw [suffixOf, List.map_map]
      rfl

/-- A name with a suffix is written again as it was exactly if its suffix is canonical. -/
theorem encode_decode_eq_self_iff_of_split? {stored : String} {p q : List Char}
    (h : split? stored.toList = some (p, q)) :
    encode (decode stored).1 (decode stored).2 = stored ↔ IsCanonical q := by
  have hstored : stored.toList = p ++ separator ++ q := (split?_eq_some_iff.1 h).1.eq_append
  have hkeys := hasKeys_decode stored
  rw [isCanonical_iff_exists_suffixOf]
  rw [decode_of_split?_eq_some h] at hkeys ⊢
  constructor
  · intro heq
    have htoList := congrArg String.toList heq
    by_cases hne : (sideDataOf q).nonzero.entries = []
    · rw [encode_of_nonzero_eq_nil hne, String.toList_ofList, hstored] at htoList
      simp [separator] at htoList
    · rw [toList_encode hne, String.toList_ofList, hstored] at htoList
      exact ⟨sideDataOf q, hkeys, hne, List.append_cancel_left htoList⟩
  · rintro ⟨data, hdata, hne, rfl⟩
    have hagain : data.nonzero.nonzero = data.nonzero :=
      SideData.nonzero_eq_self fun entry hentry => (SideData.mem_entries_nonzero.1 hentry).2
    have hne' : data.nonzero.nonzero.entries ≠ [] := by rwa [hagain]
    apply String.toList_injective
    rw [sideDataOf_suffixOf hdata hne, toList_encode hne', String.toList_ofList, hstored, suffixOf,
      hagain, suffixOf]

/-- **Exactly canonical stored names are written again as they were.**  A stored name is what is
written for the display name and the side data that are read from it if it has no encoded side data,
or if the encoded side data after the shortest display name is canonical, and not otherwise. -/
theorem encode_decode_eq_self_iff (stored : String) :
    encode (decode stored).1 (decode stored).2 = stored ↔
      (¬ ∃ p q, SplitsAt stored.toList p q ∧ q ≠ []) ∨
        ∃ p q, SplitsFirst stored.toList p q ∧ IsCanonical q := by
  cases hsplit : split? stored.toList with
  | none =>
    have hself : encode (decode stored).1 (decode stored).2 = stored := by
      rw [decode_of_split?_eq_none hsplit]
      exact encode_of_nonzero_eq_nil rfl
    refine iff_of_true hself (.inl ?_)
    rintro ⟨p, q, hplace, hne⟩
    exact hne (split?_eq_none_iff.1 hsplit p q hplace)
  | some parts =>
    obtain ⟨p, q⟩ := parts
    have hfirst : SplitsFirst stored.toList p q := split?_eq_some_iff.1 hsplit
    rw [encode_decode_eq_self_iff_of_split? hsplit]
    constructor
    · exact fun hcanonical => .inr ⟨p, q, hfirst, hcanonical⟩
    · rintro (hnone | ⟨p', q', hfirst', hcanonical⟩)
      · exact absurd ⟨p, q, hfirst.1, hfirst.2.1⟩ hnone
      · rw [← split?_eq_some_iff, hsplit] at hfirst'
        cases hfirst'
        exact hcanonical

end TorrentRemote.Name
