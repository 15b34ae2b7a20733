import TorrentRemote.Proofs.Torrent.Name

/-!
# Stored names that are written again

What was read from a stored name can be written again, whatever the name was: the display name that
is read has no place at which it could be taken apart, and the side data that is read has proper
keys and no zeros.  A second suffix may also be written right after a first one.  The separator then
becomes part of the last token of the first suffix, but as further fields, which are ignored, so all
entries of both suffixes are read, and under a key of both the number of the second.

A display name that ends in the separator, with nothing after it, is read whole.  It is the only
kind of display name that is not found again once side data was written after it: the bare separator
then begins the suffix.

## Main definitions

* `Name.rewritten` : a stored name, written again from what is read from it.

## Main results

* `Name.rewritten_stable` : what was written again is read as before, and no further writing changes
  it.
* `Name.decode_encode_stacked` : side data that is written after a suffix is set over the side data
  of the suffix.
* `Name.decode_encode_decode` : side data that is written after a display name.
-/

namespace TorrentRemote.Name

/-! ### Writing what was read -/

/-- A stored name, written again from the display name and the side data that are read from it. -/
def rewritten (stored : String) : String := encode (decode stored).1 (decode stored).2

/-- The display name of a stored name with a suffix is plain. -/
theorem isPlain_decode {stored : String} {p q : List Char}
    (h : split? stored.toList = some (p, q)) : IsPlain (decode stored).1 := by
  rw [decode_of_split?_eq_some h]
  exact (split?_eq_some_iff.1 h).isPlain

theorem decode_rewritten (stored : String) : decode (rewritten stored) = decode stored := by
  cases hsplit : split? stored.toList with
  | none =>
    -- The name is not taken apart, and it is written as it is.
    have hdecode : decode stored = (stored, .empty) := decode_of_split?_eq_none hsplit
    have hself : rewritten stored = stored := by
      rw [rewritten, hdecode]
      exact encode_of_nonzero_eq_nil rfl
    rw [hself]
  | some parts =>
    have hplain : IsPlain (decode stored).1 := isPlain_decode hsplit
    rw [rewritten, decode_encode_of_isPlain hplain (hasKeys_decode stored), nonzero_decode]

/-- **Writing what was read is stable.**  Whatever was stored, the display name and the side data
that are read from it are read again after they were written, and writing them once more changes
nothing. -/
theorem rewritten_stable (stored : String) :
    decode (encode (decode stored).1 (decode stored).2) = decode stored ∧
      rewritten (rewritten stored) = rewritten stored := by
  have hdecode : decode (rewritten stored) = decode stored := decode_rewritten stored
  refine ⟨hdecode, ?_⟩
  rw [rewritten, hdecode, rewritten]

/-- Tokens that stand for nothing, a separator inside the suffix and the order of the keys are gone
once the name was written again. -/
example : rewritten "A__meta.x.b_2_9__meta.b_07.a_1.c_0" = "A__meta.a_1.b_7" := by decide +kernel

/-! ### A suffix after a suffix -/

/-- What remains of a separator before its dot is two more fields of a token, and stands for
nothing. -/
theorem entryOf?_append (token : List Char) :
    entryOf? (token ++ ['_', '_', 'm', 'e', 't', 'a']) = entryOf? token := by
  have hfields : (token ++ ['_', '_', 'm', 'e', 't', 'a']).splitOn '_' =
      token.splitOn '_' ++ [[], ['m', 'e', 't', 'a']] := by
    rw [List.splitOn_append_cons_self]
    rfl
  rw [entryOf?, entryOf?, hfields]
  rcases hsplit : token.splitOn '_' with _ | ⟨key, _ | ⟨number, rest⟩⟩
  · exact absurd hsplit (List.splitOn_ne_nil _ _)
  · -- There was no number, and the empty field in its place is none.
    have hnone : Text.readInt64? [] = none := rfl
    simp [hnone]
  · rfl

/-- Encoded side data with a part of a separator at its end has the same entries. -/
theorem filterMap_entryOf?_append (suffix : List Char) :
    ((suffix ++ ['_', '_', 'm', 'e', 't', 'a']).splitOn '.').filterMap entryOf? =
      (suffix.splitOn '.').filterMap entryOf? := by
  by_cases hdot : '.' ∈ suffix
  · obtain ⟨token, rest, rfl, hnot⟩ := List.eq_append_cons_of_mem hdot
    have ih := filterMap_entryOf?_append rest
    rw [List.append_assoc, List.cons_append, List.splitOn_append_cons_self_of_not_mem hnot,
      List.splitOn_append_cons_self_of_not_mem hnot, List.filterMap_cons, List.filterMap_cons, ih]
  · have hnot : '.' ∉ suffix ++ ['_', '_', 'm', 'e', 't', 'a'] := by simp [hdot]
    rw [List.splitOn_eq_singleton hnot, List.splitOn_eq_singleton hdot, List.filterMap_cons,
      List.filterMap_cons, entryOf?_append]
termination_by suffix.length

/-- The side data of two suffixes, one after the other. -/
theorem sideDataOf_append {suffix : List Char} {data : SideData} (hkeys : data.HasKeys)
    (hne : data.nonzero.entries ≠ []) :
    sideDataOf (suffix ++ (separator ++ suffixOf data)) =
      (sideDataOf suffix).override data.nonzero := by
  have hseparator : suffix ++ (separator ++ suffixOf data) =
      (suffix ++ ['_', '_', 'm', 'e', 't', 'a']) ++ '.' :: suffixOf data := by
    simp [separator]
  rw [sideDataOf, hseparator, List.splitOn_append_cons_self, List.filterMap_append,
    filterMap_entryOf?_append, filterMap_entryOf?_suffixOf hkeys hne, SideData.ofList_append]
  rfl

/-- What is read if side data is written after a name with a first place, with or without anything
after it. -/
theorem decode_encode_of_splitsAt {stored : String} {p q : List Char} {data : SideData}
    (h : SplitsAt stored.toList p q)
    (hfirst : ∀ p' q', SplitsAt stored.toList p' q' → p.length ≤ p'.length)
    (hkeys : data.HasKeys) (hne : data.nonzero.entries ≠ []) :
    decode (encode stored data) = (String.ofList p, (sideDataOf q).override data.nonzero) := by
  have hsplit : split? (encode stored data).toList =
      some (p, q ++ (separator ++ suffixOf data)) := by
    rw [split?_eq_some_iff, toList_encode hne, List.append_assoc]
    exact h.splitsFirst_append hfirst fun c => isSuffixChar_of_mem_suffixOf hkeys
  rw [decode_of_split?_eq_some hsplit, sideDataOf_append hkeys hne]

theorem decode_encode_of_splitsFirst {stored : String} {p q : List Char} {data : SideData}
    (h : SplitsFirst stored.toList p q) (hkeys : data.HasKeys) :
    decode (encode stored data) =
      ((decode stored).1, (decode stored).2.override data.nonzero) := by
  rw [decode_of_split?_eq_some (split?_eq_some_iff.2 h)]
  by_cases hne : data.nonzero.entries = []
  · rw [encode_of_nonzero_eq_nil hne, decode_of_split?_eq_some (split?_eq_some_iff.2 h),
      SideData.nonzero_eq_empty hne]
    rfl
  · exact decode_encode_of_splitsAt h.1 h.2.2 hkeys hne

/-- **Side data that is written after a suffix.**  A stored name with a suffix keeps its display
name when side data is written after it.  Under each key stands the new number if it is given and
not zero, and else what the suffix before has there. -/
theorem decode_encode_stacked (stored : String) (data : SideData)
    (hsuffix : ∃ p q, SplitsAt stored.toList p q ∧ q ≠ []) (hkeys : data.HasKeys) :
    decode (encode stored data) =
        ((decode stored).1, (decode stored).2.override data.nonzero) ∧
      ∀ key, (decode (encode stored data)).2.get? key =
        (data.nonzero.get? key).or ((decode stored).2.get? key) := by
  obtain ⟨p, q, hplace, hne⟩ := hsuffix
  have hstacked : decode (encode stored data) =
      ((decode stored).1, (decode stored).2.override data.nonzero) := by
    cases hsplit : split? stored.toList with
    | none => exact absurd (split?_eq_none_iff.1 hsplit p q hplace) hne
    | some parts => exact decode_encode_of_splitsFirst (split?_eq_some_iff.1 hsplit) hkeys
  refine ⟨hstacked, fun key => ?_⟩
  rw [hstacked]
  exact SideData.get?_override _ _ key

/-- The separator is glued to a token without number, and a zero overrides nothing. -/
theorem decode_encode_stacked_bareToken :
    (∃ p q, SplitsAt "A__meta.dl_1.seed_5.x".toList p q ∧ q ≠ []) ∧
    (SideData.ofList [("dl", 0), ("rating", -3), ("seed", 7)]).HasKeys ∧
    encode "A__meta.dl_1.seed_5.x" (.ofList [("dl", 0), ("rating", -3), ("seed", 7)]) =
      "A__meta.dl_1.seed_5.x__meta.rating_-3.seed_7" ∧
    decode (encode "A__meta.dl_1.seed_5.x" (.ofList [("dl", 0), ("rating", -3), ("seed", 7)])) =
      ("A", .ofList [("dl", 1), ("rating", -3), ("seed", 7)]) := by
  have hplace : SplitsAt "A__meta.dl_1.seed_5.x".toList ['A'] "dl_1.seed_5.x".toList := by
    refine ⟨by decide +kernel, List.all_eq_true.1 ?_⟩
    decide +kernel
  have hkeys : (SideData.ofList [("dl", 0), ("rating", -3), ("seed", 7)]).HasKeys := by decide
  have hsuffix : ∃ p q, SplitsAt "A__meta.dl_1.seed_5.x".toList p q ∧ q ≠ [] :=
    ⟨_, _, hplace, by decide⟩
  refine ⟨hsuffix, hkeys, by decide +kernel, ?_⟩
  rw [(decode_encode_stacked _ _ hsuffix hkeys).1]
  decide +kernel

/-! ### A suffix after a bare separator -/

/-- A display name can be taken apart at its end only. -/
theorem eq_nil_of_splitsAt_decode {stored : String} {p q : List Char}
    (h : SplitsAt (decode stored).1.toList p q) : q = [] := by
  cases hsplit : split? stored.toList with
  | none =>
    rw [decode_of_split?_eq_none hsplit] at h
    exact split?_eq_none_iff.1 hsplit p q h
  | some parts => exact absurd h (isPlain_decode hsplit p q)

theorem decode_decode (stored : String) :
    decode (decode stored).1 = ((decode stored).1, .empty) :=
  decode_eq_self_iff.2 fun _ _ => eq_nil_of_splitsAt_decode

/-- A display name is plain unless it ends in a separator. -/
theorem isPlain_decode_iff {stored : String} :
    IsPlain (decode stored).1 ↔ ¬ separator <:+ (decode stored).1.toList := by
  constructor
  · rintro hplain ⟨p, hp⟩
    exact hplain p [] ⟨by rw [hp, List.append_nil], by simp⟩
  · intro hsuffix p q h
    obtain rfl := eq_nil_of_splitsAt_decode h
    exact hsuffix ⟨p, by rw [h.eq_append, List.append_nil]⟩

/-- A display name that ends in a separator loses it when a number is written after it. -/
theorem decode_encode_of_toList_eq_append {stored : String} {p : List Char} {data : SideData}
    (h : (decode stored).1.toList = p ++ separator) (hkeys : data.HasKeys)
    (hne : data.nonzero.entries ≠ []) :
    decode (encode (decode stored).1 data) = (String.ofList p, data.nonzero) := by
  have hplace : SplitsAt (decode stored).1.toList p [] := ⟨by rw [h, List.append_nil], by simp⟩
  have hfirst : ∀ p' q', SplitsAt (decode stored).1.toList p' q' → p.length ≤ p'.length := by
    intro p' q' h'
    obtain rfl := eq_nil_of_splitsAt_decode h'
    have hlen := congrArg List.length (hplace.eq_append.symm.trans h'.eq_append)
    simp only [List.length_append] at hlen
    omega
  have hnothing : sideDataOf [] = .empty := rfl
  rw [decode_encode_of_splitsAt hplace hfirst hkeys hne, hnothing, SideData.empty_override]

/-- Side data that is written after a display name is read again.  The display name is so too,
unless it ends in a separator and a number is written after it; then it loses this separator. -/
theorem decode_encode_decode (stored : String) {data : SideData} (hkeys : data.HasKeys) :
    (decode (encode (decode stored).1 data)).2 = data.nonzero ∧
      ((decode (encode (decode stored).1 data)).1 = (decode stored).1 ↔
        data.nonzero.entries = [] ∨ ¬ separator <:+ (decode stored).1.toList) ∧
      ((decode (encode (decode stored).1 data)).1 ≠ (decode stored).1 →
        (decode stored).1.toList =
          (decode (encode (decode stored).1 data)).1.toList ++ separator) := by
  by_cases hne : data.nonzero.entries = []
  · rw [encode_of_nonzero_eq_nil hne, decode_decode, SideData.nonzero_eq_empty hne]
    simp [SideData.empty]
  by_cases hsuffix : separator <:+ (decode stored).1.toList
  · obtain ⟨p, hp⟩ := hsuffix
    have hshorter : String.ofList p ≠ (decode stored).1 := by
      intro heq
      rw [← heq, String.toList_ofList] at hp
      simp [separator] at hp
    rw [decode_encode_of_toList_eq_append hp.symm hkeys hne, String.toList_ofList]
    exact ⟨rfl, iff_of_false hshorter (by simp [hne, ← hp]), fun _ => hp.symm⟩
  · rw [decode_encode_of_isPlain (isPlain_decode_iff.2 hsuffix) hkeys]
    simp [hsuffix]

end TorrentRemote.Name
