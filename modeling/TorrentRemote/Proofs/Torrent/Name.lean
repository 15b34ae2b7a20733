import TorrentRemote.Proofs.Text.Decimal
import TorrentRemote.Proofs.Torrent.SideData
import TorrentRemote.Proofs.Torrent.Suffix

/-!
# The name codec

Side data whose keys are nonempty and alphanumeric is found again in a stored name, without its
zeros, and so is the display name.  Which display names allow this depends on whether a suffix is
written: with one, exactly the plain names; without one, also the names that end in an empty suffix.

## Main definitions

* `Name.IsKey` : a key that side data can be stored under.
* `SideData.HasKeys` : side data with such keys alone.

## Main results

* `Name.sideDataOf_suffixOf` : the tokens of side data stand for it.
* `Name.hasKeys_decode`, `Name.nonzero_decode` : side data that is read has no other keys and no
  zeros.
* `Name.decode_encode_of_isPlain` : a plain name and side data are found again.
* `Name.decode_encode_eq_iff` : exactly when a name and side data are found again.
-/

namespace TorrentRemote

/-- A nonempty text of ASCII letters and digits. -/
def Name.IsKey (key : String) : Prop :=
  key.toList ≠ [] ∧ ∀ c ∈ key.toList, Text.isAsciiAlphanumeric c

/-- Side data with keys of ASCII letters and digits, none of them empty. -/
def SideData.HasKeys (data : SideData) : Prop := ∀ e ∈ data.entries, Name.IsKey e.1

instance (key : String) : Decidable (Name.IsKey key) :=
  decidable_of_iff (key.toList ≠ [] ∧ key.toList.all Text.isAsciiAlphanumeric)
    (and_congr_right' List.all_eq_true)

instance (data : SideData) : Decidable data.HasKeys :=
  decidable_of_iff (data.entries.all fun e => Name.IsKey e.1)
    (by simp only [SideData.HasKeys, List.all_eq_true, decide_eq_true_eq])

namespace Name

/-! ### Tokens -/

theorem not_alphanumeric_of_mem {c : Char} (h : c ∈ ['_', '.', '-']) :
    ¬ Text.isAsciiAlphanumeric c := by
  have hall : ['_', '.', '-'].all fun c => !Text.isAsciiAlphanumeric c := by decide
  simpa using List.all_eq_true.1 hall c h

theorem isAsciiAlphanumeric_of_isDigit {c : Char} (h : c.isDigit) :
    Text.isAsciiAlphanumeric c := by
  simp [Text.isAsciiAlphanumeric, Char.isAlphanum, h]

/-- A digit or a minus sign is none of the characters that part tokens and fields. -/
theorem ne_of_mem_intDigits {n : Int} {c : Char} (h : c ∈ Text.intDigits n) :
    c ≠ '_' ∧ c ≠ '.' := by
  rcases Text.mem_intDigits h with rfl | hdigit
  · decide
  · constructor <;> rintro rfl <;> exact absurd hdigit (by decide)

theorem mem_token {entry : String × Int64} {c : Char} (h : c ∈ token entry) :
    c ∈ entry.1.toList ∨ c = '_' ∨ c ∈ Text.intDigits entry.2.toInt := by
  simpa [token] using h

theorem IsKey.not_mem {key : String} (hkey : IsKey key) {c : Char} (h : c ∈ ['_', '.', '-']) :
    c ∉ key.toList :=
  fun hc => not_alphanumeric_of_mem h (hkey.2 c hc)

theorem dot_not_mem_token {entry : String × Int64} (hkey : IsKey entry.1) :
    '.' ∉ token entry := by
  intro h
  rcases mem_token h with h | h | h
  · exact hkey.not_mem (by decide) h
  · exact absurd h (by decide)
  · exact (ne_of_mem_intDigits h).2 rfl

theorem isSuffixChar_of_mem_token {entry : String × Int64} (hkey : IsKey entry.1) {c : Char}
    (h : c ∈ token entry) : isSuffixChar c := by
  rcases mem_token h with h | rfl | h
  · simp [isSuffixChar, hkey.2 c h]
  · decide
  · rcases Text.mem_intDigits h with rfl | hdigit
    · decide
    · simp [isSuffixChar, isAsciiAlphanumeric_of_isDigit hdigit]

/-- The fields of a token are its key and its number. -/
theorem splitOn_token {entry : String × Int64} (hkey : IsKey entry.1) :
    (token entry).splitOn '_' = [entry.1.toList, Text.intDigits entry.2.toInt] := by
  have hnumber : '_' ∉ Text.intDigits entry.2.toInt := fun h => (ne_of_mem_intDigits h).1 rfl
  rw [token, List.splitOn_append_cons_self_of_not_mem (hkey.not_mem (by decide)),
    List.splitOn_eq_singleton hnumber]

/-- A token stands for an entry if its first two fields are a key and a number other than zero. -/
theorem entryOf?_eq_some_iff {token : List Char} {key : String} {value : Int64} :
    entryOf? token = some (key, value) ↔ ∃ number rest,
      token.splitOn '_' = key.toList :: number :: rest ∧ IsKey key ∧
        Text.readInt64? number = some value ∧ value ≠ 0 := by
  constructor
  · intro h
    unfold entryOf? at h
    split at h
    · rename_i k number rest hfields
      obtain ⟨hkey, h⟩ := Option.ite_none_right_eq_some.1 h
      cases hread : Text.readInt64? number with
      | none => simp [hread] at h
      | some n =>
        simp only [hread, Option.ite_none_right_eq_some, Option.some.injEq, Prod.mk.injEq] at h
        obtain ⟨hne, rfl, rfl⟩ := h
        rw [IsKey, String.toList_ofList]
        exact ⟨number, rest, hfields, ⟨hkey.1, List.all_eq_true.1 hkey.2⟩, hread, hne⟩
    · cases h
  · rintro ⟨number, rest, hfields, hkey, hread, hne⟩
    have hall : key.toList.all Text.isAsciiAlphanumeric := List.all_eq_true.2 hkey.2
    simp only [entryOf?, hfields, hread, String.ofList_toList]
    rw [if_pos ⟨hkey.1, hall⟩, if_pos hne]

/-- A token stands for the entry it was written for. -/
theorem entryOf?_token {entry : String × Int64} (hkey : IsKey entry.1) (hne : entry.2 ≠ 0) :
    entryOf? (token entry) = some entry :=
  entryOf?_eq_some_iff.2
    ⟨_, [], splitOn_token hkey, hkey, Text.readInt64?_intDigits entry.2, hne⟩

/-- A token stands for no entry with another key or with a zero. -/
theorem isKey_of_entryOf?_eq_some {text : List Char} {entry : String × Int64}
    (h : entryOf? text = some entry) : IsKey entry.1 ∧ entry.2 ≠ 0 := by
  obtain ⟨number, rest, -, hkey, -, hne⟩ := entryOf?_eq_some_iff.1 h
  exact ⟨hkey, hne⟩

/-! ### Suffixes -/

/-- The encoded side data of a stored name. -/
def suffixOf (data : SideData) : List Char :=
  ['.'].intercalate (data.nonzero.entries.map token)

theorem encode_of_nonzero_eq_nil {name : String} {data : SideData}
    (h : data.nonzero.entries = []) : encode name data = name := by
  rw [encode, if_pos h]

theorem toList_encode {name : String} {data : SideData} (h : data.nonzero.entries ≠ []) :
    (encode name data).toList = name.toList ++ separator ++ suffixOf data := by
  rw [encode, if_neg h, String.toList_ofList, suffixOf]

/-- What occurs in joined texts occurs in one of them or is what joins them. -/
private theorem mem_of_mem_intercalate {x c : Char} {ls : List (List Char)}
    (h : c ∈ [x].intercalate ls) : c = x ∨ ∃ l ∈ ls, c ∈ l := by
  induction ls with
  | nil => simp at h
  | cons l ls ih =>
    cases ls with
    | nil => exact .inr ⟨l, List.mem_singleton_self l, by simpa using h⟩
    | cons m ls =>
      rw [List.intercalate_cons_cons, List.mem_append, List.mem_append, List.mem_singleton] at h
      rcases h with (h | h) | h
      · exact .inr ⟨l, List.mem_cons_self, h⟩
      · exact .inl h
      · exact (ih h).imp_right fun ⟨k, hk, hc⟩ => ⟨k, List.mem_cons_of_mem _ hk, hc⟩

theorem isKey_of_mem_nonzero {data : SideData} (hkeys : data.HasKeys) {e : String × Int64}
    (he : e ∈ data.nonzero.entries) : IsKey e.1 :=
  hkeys e (SideData.mem_entries_nonzero.1 he).1

theorem isSuffixChar_of_mem_suffixOf {data : SideData} (hkeys : data.HasKeys) {c : Char}
    (h : c ∈ suffixOf data) : isSuffixChar c := by
  rcases mem_of_mem_intercalate h with rfl | ⟨t, ht, hc⟩
  · decide
  · obtain ⟨e, he, rfl⟩ := List.mem_map.1 ht
    exact isSuffixChar_of_mem_token (isKey_of_mem_nonzero hkeys he) hc

theorem splitOn_suffixOf {data : SideData} (hkeys : data.HasKeys)
    (hne : data.nonzero.entries ≠ []) :
    (suffixOf data).splitOn '.' = data.nonzero.entries.map token := by
  refine List.splitOn_intercalate '.' (fun t ht => ?_) (by simpa using hne)
  obtain ⟨e, he, rfl⟩ := List.mem_map.1 ht
  exact dot_not_mem_token (isKey_of_mem_nonzero hkeys he)

theorem suffixOf_ne_nil {data : SideData} (hkeys : data.HasKeys)
    (hne : data.nonzero.entries ≠ []) : suffixOf data ≠ [] := by
  intro hnil
  have htokens := splitOn_suffixOf hkeys hne
  rw [hnil, List.splitOn_nil] at htokens
  obtain ⟨e, -, he⟩ := List.mem_map.1 (htokens ▸ List.mem_singleton_self ([] : List Char))
  simp [token] at he

/-- The tokens of side data stand for its entries that are not zero. -/
theorem filterMap_entryOf?_suffixOf {data : SideData} (hkeys : data.HasKeys)
    (hne : data.nonzero.entries ≠ []) :
    ((suffixOf data).splitOn '.').filterMap entryOf? = data.nonzero.entries := by
  have hentries : ∀ e ∈ data.nonzero.entries, (entryOf? ∘ token) e = some e := fun e he =>
    entryOf?_token (isKey_of_mem_nonzero hkeys he) (SideData.mem_entries_nonzero.1 he).2
  rw [splitOn_suffixOf hkeys hne, List.filterMap_map, List.filterMap_congr (g := some) hentries,
    List.filterMap_some]

/-- The tokens of side data stand for the side data without its zeros. -/
theorem sideDataOf_suffixOf {data : SideData} (hkeys : data.HasKeys)
    (hne : data.nonzero.entries ≠ []) : sideDataOf (suffixOf data) = data.nonzero := by
  rw [sideDataOf, filterMap_entryOf?_suffixOf hkeys hne, SideData.ofList_entries]

/-! ### Names -/

theorem decode_of_split?_eq_some {stored : String} {p q : List Char}
    (h : split? stored.toList = some (p, q)) :
    decode stored = (String.ofList p, sideDataOf q) := by
  rw [decode, h]

theorem decode_of_split?_eq_none {stored : String} (h : split? stored.toList = none) :
    decode stored = (stored, .empty) := by
  rw [decode, h]

theorem mem_entries_decode {stored : String} {e : String × Int64}
    (h : e ∈ (decode stored).2.entries) : ∃ text, entryOf? text = some e := by
  cases hsplit : split? stored.toList with
  | none =>
    rw [decode_of_split?_eq_none hsplit] at h
    cases h
  | some parts =>
    rw [decode_of_split?_eq_some hsplit] at h
    obtain ⟨text, -, htext⟩ := List.mem_filterMap.1 (SideData.mem_of_mem_ofList h)
    exact ⟨text, htext⟩

/-- The side data of a stored name has keys of letters and digits. -/
theorem hasKeys_decode (stored : String) : (decode stored).2.HasKeys := fun _ he =>
  have ⟨_, htext⟩ := mem_entries_decode he
  (isKey_of_entryOf?_eq_some htext).1

/-- The side data of a stored name holds no zeros. -/
theorem nonzero_decode (stored : String) : (decode stored).2.nonzero = (decode stored).2 :=
  SideData.nonzero_eq_self fun _ he =>
    have ⟨_, htext⟩ := mem_entries_decode he
    (isKey_of_entryOf?_eq_some htext).2

/-- A name is decoded as itself exactly if nothing follows a place at which it can be taken
apart. -/
theorem decode_eq_self_iff {name : String} :
    decode name = (name, .empty) ↔ ∀ p q, SplitsAt name.toList p q → q = [] := by
  rw [← split?_eq_none_iff]
  cases h : split? name.toList with
  | none => simp only [decode_of_split?_eq_none h]
  | some parts =>
    obtain ⟨p, q⟩ := parts
    have hsplit := (split?_eq_some_iff.1 h).1
    rw [decode_of_split?_eq_some h]
    simp only [Prod.mk.injEq, reduceCtorEq, iff_false]
    rintro ⟨rfl, -⟩
    have hlen := congrArg List.length hsplit.eq_append
    simp [separator] at hlen

theorem IsPlain.decode {name : String} (h : IsPlain name) : Name.decode name = (name, .empty) :=
  decode_of_split?_eq_none (split?_eq_none_iff.2 fun p q hsplit => absurd hsplit (h p q))

/-- A name to which a suffix was written is found again exactly if it is plain. -/
theorem decode_encode_eq_nonzero_iff {name : String} {data : SideData} (hkeys : data.HasKeys)
    (hne : data.nonzero.entries ≠ []) :
    decode (encode name data) = (name, data.nonzero) ↔ IsPlain name := by
  have henc : ∀ c ∈ suffixOf data, isSuffixChar c := fun c => isSuffixChar_of_mem_suffixOf hkeys
  rw [← split?_append_eq_some_iff (suffixOf_ne_nil hkeys hne) henc, ← toList_encode hne]
  cases h : split? (encode name data).toList with
  | none =>
    have hself : (encode name data).toList ≠ name.toList := fun heq => by
      have hlen := congrArg List.length heq
      simp [toList_encode hne, separator] at hlen
    rw [decode_of_split?_eq_none h]
    simp only [Prod.mk.injEq, reduceCtorEq, iff_false]
    exact fun heq => hself (congrArg String.toList heq.1)
  | some parts =>
    obtain ⟨p, q⟩ := parts
    rw [decode_of_split?_eq_some h]
    constructor
    · intro heq
      have hp : p = name.toList := by
        rw [← (Prod.mk.inj heq).1, String.toList_ofList]
      have hsplit := (split?_eq_some_iff.1 h).1.eq_append
      rw [toList_encode hne, hp] at hsplit
      rw [hp, List.append_cancel_left hsplit]
    · intro heq
      obtain ⟨rfl, rfl⟩ := Prod.mk.inj (Option.some.inj heq)
      rw [String.ofList_toList, sideDataOf_suffixOf hkeys hne]

/-- A plain name and side data are found again, without the zeros. -/
theorem decode_encode_of_isPlain {name : String} {data : SideData} (hplain : IsPlain name)
    (hkeys : data.HasKeys) : decode (encode name data) = (name, data.nonzero) := by
  by_cases hne : data.nonzero.entries = []
  · rw [encode_of_nonzero_eq_nil hne, hplain.decode, SideData.nonzero_eq_empty hne]
  · exact (decode_encode_eq_nonzero_iff hkeys hne).2 hplain

/-- **When a name and side data are found again.**  With a number other than zero, a suffix is
written, and both are found again exactly if the name can nowhere be taken apart.  Without one, the
name is stored as it is, and it may end in the separator.  A name in which the separator does not
occur is always found again. -/
theorem decode_encode_eq_iff (name : String) (data : SideData) (hkeys : data.HasKeys) :
    ((∃ e ∈ data.entries, e.2 ≠ 0) →
      (decode (encode name data) = (name, data.nonzero) ↔
        ¬ ∃ p q, SplitsAt name.toList p q)) ∧
    ((∀ e ∈ data.entries, e.2 = 0) →
      (decode (encode name data) = (name, .empty) ↔
        ¬ ∃ p q, SplitsAt name.toList p q ∧ q ≠ [])) ∧
    (¬ separator <:+: name.toList → decode (encode name data) = (name, data.nonzero)) := by
  refine ⟨fun ⟨e, he, hvalue⟩ => ?_, fun hzero => ?_, fun hnot => ?_⟩
  · have hne : data.nonzero.entries ≠ [] :=
      List.ne_nil_of_mem (SideData.mem_entries_nonzero.2 ⟨he, hvalue⟩)
    rw [decode_encode_eq_nonzero_iff hkeys hne]
    simp only [IsPlain, not_exists]
  · rw [encode_of_nonzero_eq_nil (SideData.nonzero_entries_eq_nil_iff.2 hzero)]
    rw [decode_eq_self_iff]
    simp only [not_exists, not_and, not_not]
  · exact decode_encode_of_isPlain (isPlain_of_not_isInfix hnot) hkeys

/-- The least number beside a zero is found again after a name that ends like the separator
begins.  After a name that ends in the separator it is not, but a zero alone is. -/
theorem decode_encode_least_number :
    (SideData.ofList [("dl", Int64.minValue), ("seed", 0)]).HasKeys ∧
    decode (encode "A_b__met" (.ofList [("dl", Int64.minValue), ("seed", 0)])) =
      ("A_b__met", .ofList [("dl", Int64.minValue)]) ∧
    decode (encode "A__meta." (.ofList [("dl", Int64.minValue), ("seed", 0)])) ≠
      ("A__meta.", .ofList [("dl", Int64.minValue)]) ∧
    (SideData.ofList [("seed", 0)]).HasKeys ∧
    decode (encode "A__meta." (.ofList [("seed", 0)])) = ("A__meta.", .empty) := by
  have hkeys : (SideData.ofList [("dl", Int64.minValue), ("seed", 0)]).HasKeys := by decide
  have hzero : (SideData.ofList [("seed", 0)]).HasKeys := by decide
  have hmem : ∃ e ∈ (SideData.ofList [("dl", Int64.minValue), ("seed", 0)]).entries, e.2 ≠ 0 := by
    decide
  have hplain : IsPlain "A_b__met" := by decide
  have hempty : SplitsAt "A__meta.".toList ['A'] [] := ⟨rfl, by simp⟩
  refine ⟨hkeys, ?_, ?_, hzero, ?_⟩
  · exact ((decode_encode_eq_iff _ _ hkeys).1 hmem).2 fun ⟨p, q, h⟩ => hplain p q h
  · exact fun h => ((decode_encode_eq_iff _ _ hkeys).1 hmem).1 h ⟨_, _, hempty⟩
  · refine ((decode_encode_eq_iff _ _ hzero).2.1 (by decide)).2 fun ⟨p, q, h, hq⟩ => hq ?_
    exact split?_eq_none_iff.1 (by decide : split? "A__meta.".toList = none) p q h

end Name

end TorrentRemote
