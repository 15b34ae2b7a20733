import TorrentRemote.Proofs.Torrent.Name

/-!
# What a stored name says

A stored name is understood without any search: of all places at which it can be taken apart, with
something after them, the one after the shortest text counts, and of the tokens after it, which dots
part, each says at most one entry, whatever the others say.  Of two tokens for one key the later
counts.  A token that says nothing neither adds nor removes an entry.

## Main definitions

* `Name.StandsFor` : the entry that a token stands for.
* `Name.Gives` : the entries that tokens give, one after another.
* `Name.Says` : what a stored name says.

## Main results

* `Name.entryOf?_eq_some_iff_standsFor` : tokens are read as the entries that they stand for.
* `Name.get?_sideDataOf_eq_some_iff` : encoded side data is read as the entries that its tokens
  give.
* `Name.decode_meets_grammar` : a stored name is read as what it says.
-/

namespace TorrentRemote.Name

variable {key : String} {value : Int64}

/-! ### Tokens -/

/-- A token stands for an entry: of the fields that underscores part, there are at least two, the
first is a key, and the second is a decimal number other than zero, in the range of 64-bit integers.
Leading zeros are allowed. -/
def StandsFor (token : List Char) (key : String) (value : Int64) : Prop :=
  ∃ number rest, token.splitOn '_' = key.toList :: number :: rest ∧ IsKey key ∧
    Text.IsDecimal number value.toInt ∧ value ≠ 0

/-- The tokens give a key a number: the last of them that stands for any entry with the key stands
for this one. -/
def Gives (tokens : List (List Char)) (key : String) (value : Int64) : Prop :=
  ∃ before token after, tokens = before ++ token :: after ∧ StandsFor token key value ∧
    ∀ later ∈ after, ∀ other, ¬ StandsFor later key other

/-- What occurs in a part of a text occurs in the text. -/
theorem mem_of_mem_splitOn {c d : Char} {cs part : List Char} (hpart : part ∈ cs.splitOn d)
    (hc : c ∈ part) : c ∈ cs := by
  have hall : ∀ parts : List (List Char), part ∈ parts → c ∈ [d].intercalate parts := by
    intro parts hmem
    induction parts with
    | nil => cases hmem
    | cons first parts ih =>
      cases parts with
      | nil => simpa [List.mem_singleton.1 hmem] using hc
      | cons second parts =>
        rw [List.intercalate_cons_cons, List.mem_append, List.mem_append]
        rcases List.mem_cons.1 hmem with rfl | hmem
        · exact .inl (.inl hc)
        · exact .inr (ih hmem)
  have hjoined := hall _ hpart
  rwa [List.intercalate_splitOn] at hjoined

/-- Without a plus sign, tokens are read as the entries that they stand for. -/
theorem entryOf?_eq_some_iff_standsFor {token : List Char} (hplus : '+' ∉ token) :
    entryOf? token = some (key, value) ↔ StandsFor token key value := by
  rw [entryOf?_eq_some_iff]
  refine exists_congr fun number => exists_congr fun rest => and_congr_right fun hfields => ?_
  have hnumber : '+' ∉ number := fun h =>
    hplus (mem_of_mem_splitOn (hfields ▸ List.mem_cons_of_mem _ List.mem_cons_self) h)
  rw [Text.readInt64?_eq_some_iff hnumber]

theorem not_gives_nil : ¬ Gives [] key value := by
  rintro ⟨before, token, after, hnil, -⟩
  simp at hnil

/-- A last token counts if it stands for an entry with the key, and else the tokens before it do. -/
theorem gives_append_singleton_iff {tokens : List (List Char)} {last : List Char} :
    Gives (tokens ++ [last]) key value ↔ StandsFor last key value ∨
      (∀ other, ¬ StandsFor last key other) ∧ Gives tokens key value := by
  constructor
  · rintro ⟨before, token, after, htokens, hstands, hlater⟩
    rcases List.eq_nil_or_concat after with rfl | ⟨after, final, rfl⟩
    · obtain ⟨-, hlast⟩ := List.append_inj' htokens rfl
      obtain rfl := List.singleton_inj.1 hlast
      exact .inl hstands
    · rw [List.concat_eq_append, ← List.cons_append, ← List.append_assoc] at htokens
      obtain ⟨rfl, hlast⟩ := List.append_inj' htokens rfl
      obtain rfl := List.singleton_inj.1 hlast
      refine .inr ⟨hlater last (by simp), before, token, after, rfl, hstands, fun later hmem => ?_⟩
      exact hlater later (by simp [hmem])
  · rintro (hstands | ⟨hnone, before, token, after, rfl, hstands, hlater⟩)
    · exact ⟨tokens, last, [], rfl, hstands, fun later hmem => absurd hmem List.not_mem_nil⟩
    · refine ⟨before, token, after ++ [last], by simp, hstands, fun later hmem => ?_⟩
      rcases List.mem_append.1 hmem with hmem | hmem
      · exact hlater later hmem
      · exact List.mem_singleton.1 hmem ▸ hnone

/-- A token that stands for nothing is as good as none. -/
theorem gives_append_cons_iff {before after : List (List Char)} {token : List Char}
    (hnone : ∀ key value, ¬ StandsFor token key value) :
    Gives (before ++ token :: after) key value ↔ Gives (before ++ after) key value := by
  induction after using List.reverseRecOn generalizing value with
  | nil =>
    rw [gives_append_singleton_iff, List.append_nil]
    exact ⟨fun h => h.elim (fun h => absurd h (hnone key value)) And.right,
      fun h => .inr ⟨hnone key, h⟩⟩
  | append_singleton after last ih =>
    rw [← List.cons_append, ← List.append_assoc, ← List.append_assoc, gives_append_singleton_iff,
      gives_append_singleton_iff, ih]

/-- Tokens are read as the entries that they give. -/
theorem get?_ofList_filterMap_eq_some_iff {tokens : List (List Char)}
    (hplus : ∀ token ∈ tokens, '+' ∉ token) :
    (SideData.ofList (tokens.filterMap entryOf?)).get? key = some value ↔
      Gives tokens key value := by
  induction tokens using List.reverseRecOn generalizing value with
  | nil =>
    exact iff_of_false (by simp [SideData.ofList, SideData.empty, SideData.get?]) not_gives_nil
  | append_singleton tokens last ih =>
    have hlast : ∀ {key value}, entryOf? last = some (key, value) ↔ StandsFor last key value :=
      entryOf?_eq_some_iff_standsFor (hplus last (by simp))
    have ih := fun value => @ih value fun token hmem => hplus token (List.mem_append_left _ hmem)
    rw [gives_append_singleton_iff, List.filterMap_append, SideData.ofList_append, ← ih]
    cases hentry : entryOf? last with
    | none =>
      have hnone : ∀ other, ¬ StandsFor last key other := fun other h => by
        rw [← hlast, hentry] at h
        cases h
      simp [hentry, hnone]
    | some entry =>
      obtain ⟨k, v⟩ := entry
      have hstands : ∀ {key value}, StandsFor last key value ↔ k = key ∧ v = value := by
        intro key value
        rw [← hlast, hentry, Option.some.injEq, Prod.mk.injEq]
      simp only [List.filterMap_cons, hentry, List.filterMap_nil, List.foldl_cons, List.foldl_nil,
        SideData.get?_insert, hstands]
      by_cases hkey : k = key <;> simp [hkey]

/-- Encoded side data is read as the entries that its tokens give. -/
theorem get?_sideDataOf_eq_some_iff {suffix : List Char} (hsuffix : ∀ c ∈ suffix, isSuffixChar c) :
    (sideDataOf suffix).get? key = some value ↔ Gives (suffix.splitOn '.') key value := by
  refine get?_ofList_filterMap_eq_some_iff fun token htoken hplus => ?_
  exact absurd (hsuffix '+' (mem_of_mem_splitOn htoken hplus)) (by decide)

/-! ### Stored names -/

/-- What a stored name says, of all the ways to take it apart. -/
inductive Says (stored : String) : String → SideData → Prop
  /-- The display name is the shortest text before a separator and encoded side data, and under
  each key stands what the tokens of the encoded side data give it. -/
  | suffixed {p q : List Char} {data : SideData} (hsplit : SplitsAt stored.toList p q)
    (hne : q ≠ [])
    (hshortest : ∀ p' q', SplitsAt stored.toList p' q' → q' ≠ [] → p.length ≤ p'.length)
    (hdata : ∀ key value, data.get? key = some value ↔ Gives (q.splitOn '.') key value) :
    Says stored (String.ofList p) data
  /-- A name without encoded side data is the display name. -/
  | whole (hnone : ∀ p q, SplitsAt stored.toList p q → q = []) : Says stored stored .empty

/-- The first place is the one after the shortest text, also if places without anything after them
are left out. -/
theorem splitsFirst_iff {cs p q : List Char} : SplitsFirst cs p q ↔ SplitsAt cs p q ∧ q ≠ [] ∧
    ∀ p' q', SplitsAt cs p' q' → q' ≠ [] → p.length ≤ p'.length := by
  refine and_congr_right fun hsplit => and_congr_right fun hne => ?_
  refine ⟨fun h p' q' hsplit' _ => h p' q' hsplit', fun h p' q' hsplit' => ?_⟩
  by_contra hlt
  exact hlt (h p' q' hsplit' (hsplit'.ne_nil_of_length_lt hsplit (Nat.lt_of_not_le hlt)))

theorem says_decode (stored : String) : Says stored (decode stored).1 (decode stored).2 := by
  cases hsplit : split? stored.toList with
  | none =>
    rw [decode_of_split?_eq_none hsplit]
    exact .whole (split?_eq_none_iff.1 hsplit)
  | some parts =>
    obtain ⟨p, q⟩ := parts
    rw [decode_of_split?_eq_some hsplit]
    obtain ⟨hplace, hne, hshortest⟩ := splitsFirst_iff.1 (split?_eq_some_iff.1 hsplit)
    exact .suffixed hplace hne hshortest fun key value =>
      get?_sideDataOf_eq_some_iff hplace.isSuffixChar

/-- A stored name says one thing only. -/
theorem Says.eq_decode {stored name : String} {data : SideData} (h : Says stored name data) :
    decode stored = (name, data) := by
  cases h with
  | whole hnone => exact decode_of_split?_eq_none (split?_eq_none_iff.2 hnone)
  | suffixed hsplit hne hshortest hdata =>
    have hfirst := split?_eq_some_iff.2 (splitsFirst_iff.2 ⟨hsplit, hne, hshortest⟩)
    rw [decode_of_split?_eq_some hfirst]
    congr 1
    refine SideData.eq_of_get?_eq_some_iff fun key value => ?_
    rw [hdata, get?_sideDataOf_eq_some_iff hsplit.isSuffixChar]

/-- Nothing may follow encoded side data. -/
theorem eq_nil_of_splitsAt_append {cs p q : List Char} {c : Char} (hc : ¬ isSuffixChar c)
    (h : SplitsAt (cs ++ [c]) p q) : q = [] := by
  rcases List.eq_nil_or_concat q with rfl | ⟨q, last, rfl⟩
  · rfl
  · have heq : cs ++ [c] = p ++ separator ++ q ++ [last] := by
      rw [h.eq_append, List.concat_eq_append, ← List.append_assoc]
    obtain rfl := List.singleton_inj.1 (List.append_inj' heq rfl).2
    exact absurd (h.isSuffixChar c (by simp)) hc

/-- **Stored names are read by their grammar.**  What is read from a stored name is what it says,
whatever characters the display name has.  A token that stands for nothing may as well be left out,
and a name that ends in any other character than those of encoded side data, such as a line break,
is read as it is. -/
theorem decode_meets_grammar (stored : String) :
    (∀ name data, decode stored = (name, data) ↔ Says stored name data) ∧
    (∀ p q before token after, SplitsFirst stored.toList p q →
      q.splitOn '.' = before ++ token :: after → (∀ key value, ¬ StandsFor token key value) →
        ∀ key value, (decode stored).2.get? key = some value ↔ Gives (before ++ after) key value) ∧
    ∀ c, ¬ isSuffixChar c → decode (stored.push c) = (stored.push c, .empty) := by
  refine ⟨fun name data => ⟨fun h => ?_, Says.eq_decode⟩, ?_, fun c hc => ?_⟩
  · have hsays := says_decode stored
    rwa [h] at hsays
  · intro p q before token after hfirst htokens hnone key value
    rw [decode_of_split?_eq_some (split?_eq_some_iff.2 hfirst),
      get?_sideDataOf_eq_some_iff hfirst.1.isSuffixChar, htokens, gives_append_cons_iff hnone]
  · refine decode_of_split?_eq_none (split?_eq_none_iff.2 fun p q hsplit => ?_)
    rw [String.toList_push] at hsplit
    exact eq_nil_of_splitsAt_append hc hsplit

/-- The display name may hold a line break, and no line break may follow.  A number may have leading
zeros, and tokens without number, with a zero or with a number out of range change nothing. -/
example : decode "a\nb__meta.x_007.x_0.x.x_9223372036854775808" = ("a\nb", .ofList [("x", 7)]) ∧
    decode "a__meta.x_1\n" = ("a__meta.x_1\n", .empty) := by
  decide +kernel

end TorrentRemote.Name
