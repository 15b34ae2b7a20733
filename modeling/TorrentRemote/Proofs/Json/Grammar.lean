import TorrentRemote.Proofs.Json.Token

/-!
# The grammar of JSON

Which texts are JSON, and which value each of them denotes, is said without a reader: by the items
and members between commas, with white space around them.  The reader takes exactly these texts.

## Main definitions

* `Json.IsValue` : values in a text.
* `Json.IsText` : whole texts.

## Main results

* `Json.IsValue.readValue?_eq`, `Json.exists_isValue_of_readValue?` : the reader of values.
* `Json.Raw.read?_eq_some_iff` : the reader of whole texts.
-/

namespace TorrentRemote.Json

variable {cs rest : List Char} {raw : Raw} {depth fuel : Nat}

/-! ### White space -/

/-- White space. -/
def IsSpaces (cs : List Char) : Prop := ∀ c ∈ cs, c ∈ [' ', '\t', '\n', '\r']

theorem isSpace_iff {c : Char} : isSpace c ↔ c ∈ [' ', '\t', '\n', '\r'] := by
  simp [isSpace, or_assoc]

theorem isSpaces_nil : IsSpaces [] := List.forall_mem_nil _

theorem skipSpace_cons {c : Char} (h : c ∉ [' ', '\t', '\n', '\r']) (cs : List Char) :
    skipSpace (c :: cs) = c :: cs :=
  List.dropWhile_cons_of_neg fun hspace => h (isSpace_iff.1 hspace)

theorem skipSpace_append (h : IsSpaces cs) (rest : List Char) :
    skipSpace (cs ++ rest) = skipSpace rest :=
  List.dropWhile_append_of_pos fun c hc => isSpace_iff.2 (h c hc)

theorem skipSpace_eq_nil_iff : skipSpace cs = [] ↔ IsSpaces cs := by
  simp only [skipSpace, List.dropWhile_eq_nil_iff, isSpace_iff, IsSpaces]

/-- A text is some white space and what is left when it is skipped. -/
theorem exists_isSpaces_append (cs : List Char) : ∃ before, IsSpaces before ∧
    cs = before ++ skipSpace cs :=
  ⟨cs.takeWhile isSpace, fun _ hc => isSpace_iff.1 (List.mem_takeWhile_imp hc),
    List.takeWhile_append_dropWhile.symm⟩

/-! ### The grammar -/

/-- A value in a text with white space around it. -/
structure Item where
  before : List Char
  text : List Char
  after : List Char
  value : Raw

/-- The text of an item. -/
def Item.toList (item : Item) : List Char := item.before ++ (item.text ++ item.after)

theorem Item.length_text_le (item : Item) : item.text.length ≤ item.toList.length := by
  simp only [Item.toList, List.length_append]
  omega

/-- There is nothing but white space around the value. -/
structure Item.IsSpaced (item : Item) : Prop where
  before : IsSpaces item.before
  after : IsSpaces item.after

/-- A member of an object in a text: its key, which is written as `token`, and its value. -/
structure Member where
  before : List Char
  token : List Char
  gap : List Char
  key : List Piece
  item : Item

/-- The text of a member. -/
def Member.toList (member : Member) : List Char :=
  member.before ++ '"' :: (member.token ++ '"' :: (member.gap ++ ':' :: member.item.toList))

theorem Member.length_text_le (member : Member) :
    member.item.text.length ≤ member.toList.length := by
  have hitem := member.item.length_text_le
  simp only [Member.toList, List.length_append, List.length_cons]
  omega

/-- The key and the value of a member. -/
def Member.value (member : Member) : List Piece × Raw := (member.key, member.item.value)

/-- There is nothing but white space around the key and the value. -/
structure Member.IsSpaced (member : Member) : Prop where
  before : IsSpaces member.before
  gap : IsSpaces member.gap
  item : member.item.IsSpaced

/-- Texts with commas between them. -/
def commaSeparated (texts : List (List Char)) : List Char := [','].intercalate texts

/-- A value and its text. -/
inductive IsValue : List Char → Raw → Prop
  | null : IsValue "null".toList .null
  | true : IsValue "true".toList (.bool true)
  | false : IsValue "false".toList (.bool false)
  | number {text : List Char} {raw : Raw} (h : IsNumber text raw) : IsValue text raw
  | string {token : List Char} {pieces : List Piece} (h : Written token pieces) :
    IsValue ('"' :: token ++ ['"']) (.string pieces)
  | emptyArray {gap : List Char} (h : IsSpaces gap) : IsValue ('[' :: gap ++ [']']) (.array [])
  | array {items : List Item} (hne : items ≠ []) (hspaced : ∀ item ∈ items, item.IsSpaced)
      (hitems : ∀ item ∈ items, IsValue item.text item.value) :
    IsValue ('[' :: commaSeparated (items.map Item.toList) ++ [']'])
      (.array (items.map Item.value))
  | emptyObject {gap : List Char} (h : IsSpaces gap) :
    IsValue ('\x7b' :: gap ++ ['\x7d']) (.object [])
  | object {members : List Member} (hne : members ≠ [])
      (hspaced : ∀ member ∈ members, member.IsSpaced)
      (hkeys : ∀ member ∈ members, Written member.token member.key)
      (hvalues : ∀ member ∈ members, IsValue member.item.text member.item.value) :
    IsValue ('\x7b' :: commaSeparated (members.map Member.toList) ++ ['\x7d'])
      (.object (members.map Member.value))

/-- A whole text and its value. -/
def IsText (cs : List Char) (raw : Raw) : Prop :=
  ∃ item : Item, item.toList = cs ∧ item.value = raw ∧ item.IsSpaced ∧
    IsValue item.text item.value

/-! ### Readers of parts -/

section Separated

variable {α ι : Type} {read : List Char → Option (α × List Char)} {close : Char}
  {whole : ι → List Char} {value : ι → α} {good : ι → Prop} {xs : List α}

/-- The reader takes the text of a part before a comma or the closing character, but for white space
after it. -/
structure Takes (read : List Char → Option (α × List Char)) (close : Char) (whole : List Char)
    (value : α) : Prop where
  starts (rest : List Char) : ∃ c tail, skipSpace (whole ++ rest) = c :: tail ∧ c ≠ close
  takes (next : Char) (rest : List Char) : next = ',' ∨ next = close →
    ∃ tail, read (skipSpace (whole ++ next :: rest)) = some (value, tail) ∧
      skipSpace tail = next :: rest

theorem commaSeparated_singleton (text : List Char) : commaSeparated [text] = text :=
  List.intercalate_singleton

theorem commaSeparated_cons_cons (first second : List Char) (texts : List (List Char)) :
    commaSeparated (first :: second :: texts) =
      first ++ ',' :: commaSeparated (second :: texts) := by
  simp only [commaSeparated, List.intercalate_cons_cons, List.append_assoc, List.singleton_append]

theorem length_le_length_commaSeparated (texts : List (List Char)) :
    texts.length ≤ (commaSeparated texts).length + 1 := by
  induction texts with
  | nil => exact Nat.zero_le _
  | cons first texts ih =>
    cases texts with
    | nil => simp
    | cons second texts =>
      simp only [commaSeparated_cons_cons, List.length_append, List.length_cons] at ih ⊢
      omega

theorem length_le_length_commaSeparated_map (whole : ι → List Char) {part : ι} {parts : List ι}
    (h : part ∈ parts) : (whole part).length ≤ (commaSeparated (parts.map whole)).length := by
  induction parts with
  | nil => cases h
  | cons first parts ih =>
    cases parts with
    | nil => rw [List.mem_singleton.1 h, List.map_singleton, commaSeparated_singleton]
    | cons second parts =>
      rw [List.map_cons, List.map_cons, commaSeparated_cons_cons, List.length_append,
        List.length_cons]
      rcases List.mem_cons.1 h with rfl | h
      · omega
      · have hle := ih h
        rw [List.map_cons] at hle
        omega

/-- Parts between commas are read up to the closing character. -/
theorem readSeparated?_commaSeparated {parts : List ι} (hne : parts ≠ []) (hclose : close ≠ ',')
    (hparts : ∀ part ∈ parts, Takes read close (whole part) (value part))
    (hfuel : parts.length ≤ fuel) :
    readSeparated? read close fuel (commaSeparated (parts.map whole) ++ close :: rest) =
      some (parts.map value, rest) := by
  induction parts generalizing fuel with
  | nil => exact absurd rfl hne
  | cons part parts ih =>
    obtain ⟨fuel, rfl⟩ := Nat.exists_eq_succ_of_ne_zero (show fuel ≠ 0 by
      rw [List.length_cons] at hfuel
      omega)
    have hpart := hparts part List.mem_cons_self
    cases parts with
    | nil =>
      obtain ⟨tail, hread, hskip⟩ := hpart.takes close rest (.inr rfl)
      rw [List.map_singleton, commaSeparated_singleton, readSeparated?]
      simp only [hread, hskip, Option.bind_eq_bind, Option.bind_some, if_neg hclose, if_true]
      rfl
    | cons second parts =>
      have hrest := ih (List.cons_ne_nil _ _)
        (fun other hmem => hparts other (List.mem_cons_of_mem _ hmem))
        (Nat.le_of_succ_le_succ hfuel)
      rw [List.map_cons] at hrest
      obtain ⟨tail, hread, hskip⟩ := hpart.takes ','
        (commaSeparated (whole second :: parts.map whole) ++ close :: rest) (.inl rfl)
      rw [List.map_cons, List.map_cons, commaSeparated_cons_cons, List.append_assoc,
        List.cons_append, readSeparated?]
      simp only [hread, hskip, hrest, Option.bind_eq_bind, Option.bind_some, if_true,
        List.map_cons]

/-- Parts between commas, one or more, are read up to the closing character. -/
theorem readEnclosed?_commaSeparated {parts : List ι} (hne : parts ≠ []) (hclose : close ≠ ',')
    (hparts : ∀ part ∈ parts, Takes read close (whole part) (value part)) :
    readEnclosed? read close (commaSeparated (parts.map whole) ++ close :: rest) =
      some (parts.map value, rest) := by
  have hfuel : parts.length ≤ (commaSeparated (parts.map whole) ++ close :: rest).length := by
    have hlength := length_le_length_commaSeparated (parts.map whole)
    rw [List.length_map] at hlength
    rw [List.length_append, List.length_cons]
    omega
  have hread : readSeparated? read close _ (commaSeparated (parts.map whole) ++ close :: rest) =
      some (parts.map value, rest) := readSeparated?_commaSeparated hne hclose hparts hfuel
  obtain ⟨c, tail, hskip, hc⟩ : ∃ c tail,
      skipSpace (commaSeparated (parts.map whole) ++ close :: rest) = c :: tail ∧ c ≠ close := by
    obtain ⟨part, parts, rfl⟩ := List.exists_cons_of_ne_nil hne
    have hstarts := (hparts part List.mem_cons_self).starts
    cases parts with
    | nil =>
      rw [List.map_singleton, commaSeparated_singleton]
      exact hstarts _
    | cons second parts =>
      rw [List.map_cons, List.map_cons, commaSeparated_cons_cons, List.append_assoc]
      exact hstarts _
  rw [readEnclosed?, hskip]
  exact (if_neg hc).trans hread

/-- Nothing but white space is read up to the closing character. -/
theorem readEnclosed?_of_isSpaces {gap : List Char} (hgap : IsSpaces gap)
    (hclose : close ∉ [' ', '\t', '\n', '\r']) :
    readEnclosed? read close (gap ++ close :: rest) = some ([], rest) := by
  rw [readEnclosed?, skipSpace_append hgap, skipSpace_cons hclose]
  exact if_pos rfl

/-- What is read between commas consists of parts. -/
theorem exists_parts_of_readSeparated?
    (hread : ∀ cs x tail, read (skipSpace cs) = some (x, tail) →
      ∃ part, cs = whole part ++ skipSpace tail ∧ value part = x ∧ good part)
    (h : readSeparated? read close fuel cs = some (xs, rest)) :
    ∃ parts : List ι, parts ≠ [] ∧ cs = commaSeparated (parts.map whole) ++ close :: rest ∧
      parts.map value = xs ∧ ∀ part ∈ parts, good part := by
  induction fuel generalizing cs xs with
  | zero => cases h
  | succ fuel ih =>
    obtain ⟨⟨x, tail⟩, hx, hafter⟩ := Option.bind_eq_some_iff.1 h
    obtain ⟨part, rfl, rfl, hgood⟩ := hread cs x tail hx
    dsimp only at hafter
    split at hafter
    · cases hafter
    · next c next hskip =>
      rw [hskip]
      split at hafter
      · next hcomma =>
        obtain ⟨⟨ys, tail'⟩, hys, heq⟩ := Option.bind_eq_some_iff.1 hafter
        cases heq
        obtain ⟨parts, hne, rfl, rfl, hparts⟩ := ih hys
        obtain ⟨second, parts, rfl⟩ := List.exists_cons_of_ne_nil hne
        refine ⟨part :: second :: parts, List.cons_ne_nil _ _, ?_, rfl,
          List.forall_mem_cons.2 ⟨hgood, hparts⟩⟩
        simp only [List.map_cons, commaSeparated_cons_cons, hcomma, List.append_assoc,
          List.cons_append]
      · split at hafter
        · next hclose =>
          cases hafter
          refine ⟨[part], List.cons_ne_nil _ _, ?_, rfl, List.forall_mem_singleton.2 hgood⟩
          rw [List.map_singleton, commaSeparated_singleton, hclose]
        · cases hafter

/-- What is read up to a closing character consists of parts, or of white space. -/
theorem exists_parts_of_readEnclosed?
    (hread : ∀ cs x tail, read (skipSpace cs) = some (x, tail) →
      ∃ part, cs = whole part ++ skipSpace tail ∧ value part = x ∧ good part)
    (h : readEnclosed? read close cs = some (xs, rest)) :
    (∃ gap, IsSpaces gap ∧ cs = gap ++ close :: rest ∧ xs = []) ∨
    ∃ parts : List ι, parts ≠ [] ∧ cs = commaSeparated (parts.map whole) ++ close :: rest ∧
      parts.map value = xs ∧ ∀ part ∈ parts, good part := by
  rw [readEnclosed?] at h
  split at h
  · cases h
  · next c tail hskip =>
    split at h
    · next hclose =>
      cases h
      obtain ⟨gap, hgap, hcs⟩ := exists_isSpaces_append cs
      rw [hskip, hclose] at hcs
      exact .inl ⟨gap, hgap, hcs, rfl⟩
    · exact .inr (exists_parts_of_readSeparated? hread h)

end Separated

/-! ### What is read is a value -/

theorem exists_item_of_readValue? {tail : List Char}
    (hvalue : ∀ cs raw rest, readValue? depth cs = some (raw, rest) →
      ∃ text, cs = text ++ rest ∧ IsValue text raw)
    (h : readValue? depth (skipSpace cs) = some (raw, tail)) :
    ∃ item : Item, cs = item.toList ++ skipSpace tail ∧ item.value = raw ∧ item.IsSpaced ∧
      IsValue item.text item.value := by
  obtain ⟨before, hbefore, hcs⟩ := exists_isSpaces_append cs
  obtain ⟨after, hafter, htail⟩ := exists_isSpaces_append tail
  obtain ⟨text, htext, hvalue⟩ := hvalue _ _ _ h
  refine ⟨⟨before, text, after, raw⟩, ?_, rfl, ⟨hbefore, hafter⟩, hvalue⟩
  calc cs = before ++ skipSpace cs := hcs
    _ = before ++ (text ++ tail) := by rw [htext]
    _ = before ++ (text ++ (after ++ skipSpace tail)) := by rw [← htail]
    _ = (before ++ (text ++ after)) ++ skipSpace tail := by simp only [List.append_assoc]

theorem exists_member_of_readMember? {tail : List Char} {value : List Piece × Raw}
    (hvalue : ∀ cs raw rest, readValue? depth cs = some (raw, rest) →
      ∃ text, cs = text ++ rest ∧ IsValue text raw)
    (h : readMember? (readValue? depth) (skipSpace cs) = some (value, tail)) :
    ∃ member : Member, cs = member.toList ++ skipSpace tail ∧ member.value = value ∧
      member.IsSpaced ∧ Written member.token member.key ∧
      IsValue member.item.text member.item.value := by
  obtain ⟨before, hbefore, hcs⟩ := exists_isSpaces_append cs
  unfold readMember? at h
  split at h
  · next after hquote =>
    obtain ⟨⟨key, afterKey⟩, hkey, hmember⟩ := Option.bind_eq_some_iff.1 h
    obtain ⟨token, rfl, htoken⟩ := exists_written_of_pieces? hkey
    dsimp only at hmember
    split at hmember
    · next afterColon hcolon =>
      obtain ⟨⟨raw, tail⟩, hraw, heq⟩ := Option.bind_eq_some_iff.1 hmember
      cases heq
      obtain ⟨gap, hgap, rfl⟩ : ∃ gap, IsSpaces gap ∧ afterKey = gap ++ ':' :: afterColon :=
        hcolon ▸ exists_isSpaces_append afterKey
      obtain ⟨item, rfl, rfl, hspaced, hitem⟩ := exists_item_of_readValue? hvalue hraw
      refine ⟨⟨before, token, gap, key, item⟩, ?_, rfl, ⟨hbefore, hgap, hspaced⟩, htoken, hitem⟩
      rw [hcs, hquote]
      simp only [Member.toList, List.append_assoc, List.cons_append]
    · cases hmember
  · cases h

/-- What is read as a word is the value that the word stands for. -/
theorem exists_isValue_of_afterWord? {c : Char} {word : String} {value : Raw}
    (h : (afterWord? word cs).map (fun cs => (value, cs)) = some (raw, rest))
    (hvalue : IsValue (c :: word.toList) value) :
    ∃ text, c :: cs = text ++ rest ∧ IsValue text raw := by
  obtain ⟨tail, hword, heq⟩ := Option.map_eq_some_iff.1 h
  cases heq
  rw [← List.isPrefixOf?_eq_some_iff_append_eq.1 hword, ← List.cons_append]
  exact ⟨_, rfl, hvalue⟩

/-- What is read as a value is one. -/
theorem exists_isValue_of_readValue? (h : readValue? depth cs = some (raw, rest)) :
    ∃ text, cs = text ++ rest ∧ IsValue text raw := by
  induction depth generalizing cs raw rest with
  | zero => cases h
  | succ depth ih =>
    have hvalue : ∀ cs raw rest, readValue? depth cs = some (raw, rest) →
        ∃ text, cs = text ++ rest ∧ IsValue text raw := fun _ _ _ => ih
    unfold readValue? at h
    split at h
    · obtain ⟨⟨pieces, tail⟩, hpieces, heq⟩ := Option.map_eq_some_iff.1 h
      cases heq
      obtain ⟨token, rfl, htoken⟩ := exists_written_of_pieces? hpieces
      exact ⟨_, by simp, .string htoken⟩
    · obtain ⟨⟨items, tail⟩, hitems, heq⟩ := Option.map_eq_some_iff.1 h
      cases heq
      obtain ⟨gap, hgap, rfl, rfl⟩ | ⟨parts, hne, rfl, rfl, hparts⟩ :=
        exists_parts_of_readEnclosed? (fun _ _ _ => exists_item_of_readValue? hvalue) hitems
      · exact ⟨_, by simp, .emptyArray hgap⟩
      · exact ⟨_, by simp, .array hne (fun item hmem => (hparts item hmem).1)
          fun item hmem => (hparts item hmem).2⟩
    · obtain ⟨⟨members, tail⟩, hmembers, heq⟩ := Option.map_eq_some_iff.1 h
      cases heq
      obtain ⟨gap, hgap, rfl, rfl⟩ | ⟨parts, hne, rfl, rfl, hparts⟩ :=
        exists_parts_of_readEnclosed? (fun _ _ _ => exists_member_of_readMember? hvalue) hmembers
      · exact ⟨_, by simp, .emptyObject hgap⟩
      · exact ⟨_, by simp, .object hne (fun member hmem => (hparts member hmem).1)
          (fun member hmem => (hparts member hmem).2.1) fun member hmem => (hparts member hmem).2.2⟩
    · exact exists_isValue_of_afterWord? h .true
    · exact exists_isValue_of_afterWord? h .false
    · exact exists_isValue_of_afterWord? h .null
    · obtain ⟨text, hcs, hnumber⟩ := exists_isNumber_of_readNumber? h
      exact ⟨text, hcs, .number hnumber⟩

/-! ### Every value is read -/

/-- What begins like a number is read as a number. -/
theorem readValue?_of_number {c : Char} (h : c = '-' ∨ c.isDigit) (depth : Nat) (cs : List Char) :
    readValue? (depth + 1) (c :: cs) = readNumber? (c :: cs) := by
  rw [readValue?.eq_def]
  simp only
  split
  case h_7 => rfl
  all_goals
    rename_i heq
    obtain ⟨rfl, -⟩ := List.cons_eq_cons.1 heq
    exact absurd h (by decide)

/-- A value begins with a character that is no white space and closes nothing. -/
theorem IsValue.exists_cons (h : IsValue cs raw) :
    ∃ c tail, cs = c :: tail ∧ c ∉ [' ', '\t', '\n', '\r'] ∧ c ≠ ']' := by
  cases h with
  | number h =>
    obtain ⟨c, tail, rfl, hc⟩ := h.exists_cons
    have hother : ∀ d ∈ [' ', '\t', '\n', '\r', ']'], c ≠ d := by
      intro d hd heq
      subst heq
      simp only [List.mem_cons, List.not_mem_nil, or_false] at hd
      rcases hd with rfl | rfl | rfl | rfl | rfl <;> exact absurd hc (by decide)
    exact ⟨c, tail, rfl, fun hmem => hother c (List.mem_append_left [']'] hmem) rfl,
      hother ']' (by decide)⟩
  | _ => exact ⟨_, _, rfl, by decide, by decide⟩

theorem IsSpaces.endsNumber_append {after : List Char} (hafter : IsSpaces after)
    (hrest : EndsNumber rest) : EndsNumber (after ++ rest) := by
  cases after with
  | nil => exact hrest
  | cons c after =>
    refine endsNumber_cons ?_ _
    have hc := hafter c List.mem_cons_self
    simp only [List.mem_cons, List.not_mem_nil, or_false] at hc
    rcases hc with rfl | rfl | rfl | rfl <;> decide

/-- What comes after a part ends a number. -/
theorem endsNumber_next {after : List Char} {next : Char} (hafter : IsSpaces after)
    (hnext : next ∈ [',', ']', '\x7d']) (rest : List Char) :
    EndsNumber (after ++ next :: rest) := by
  refine hafter.endsNumber_append (endsNumber_cons ?_ rest)
  simp only [List.mem_cons, List.not_mem_nil, or_false] at hnext
  rcases hnext with rfl | rfl | rfl <;> decide

theorem skipSpace_next {after : List Char} {next : Char} (hafter : IsSpaces after)
    (hnext : next ∈ [',', ']', '\x7d']) (rest : List Char) :
    skipSpace (after ++ next :: rest) = next :: rest := by
  rw [skipSpace_append hafter, skipSpace_cons]
  simp only [List.mem_cons, List.not_mem_nil, or_false] at hnext
  rcases hnext with rfl | rfl | rfl <;> decide

/-- White space around a value is skipped. -/
theorem Item.skipSpace_eq {item : Item} (hspaced : item.IsSpaced)
    (hvalue : IsValue item.text item.value) (rest : List Char) :
    skipSpace (item.toList ++ rest) = item.text ++ (item.after ++ rest) := by
  obtain ⟨c, tail, hc, hspace, -⟩ := hvalue.exists_cons
  rw [Item.toList, List.append_assoc, skipSpace_append hspaced.before, List.append_assoc, hc,
    List.cons_append, skipSpace_cons hspace]

theorem Item.takes {item : Item} (hspaced : item.IsSpaced) (hvalue : IsValue item.text item.value)
    (hread : ∀ rest, EndsNumber rest →
      readValue? depth (item.text ++ rest) = some (item.value, rest)) :
    Takes (readValue? depth) ']' item.toList item.value where
  starts rest := by
    obtain ⟨c, tail, hc, -, hclose⟩ := hvalue.exists_cons
    exact ⟨c, _, by rw [Item.skipSpace_eq hspaced hvalue, hc, List.cons_append], hclose⟩
  takes next rest hnext := by
    have hnext' : next ∈ [',', ']', '\x7d'] := by rcases hnext with rfl | rfl <;> decide
    refine ⟨_, ?_, skipSpace_next hspaced.after hnext' rest⟩
    rw [Item.skipSpace_eq hspaced hvalue, hread _ (endsNumber_next hspaced.after hnext' rest)]

theorem Member.takes {member : Member} (hspaced : member.IsSpaced)
    (hkey : Written member.token member.key) (hvalue : IsValue member.item.text member.item.value)
    (hread : ∀ rest, EndsNumber rest →
      readValue? depth (member.item.text ++ rest) = some (member.item.value, rest)) :
    Takes (readMember? (readValue? depth)) '\x7d' member.toList member.value := by
  have hskip (rest : List Char) : skipSpace (member.toList ++ rest) =
      '"' :: (member.token ++ '"' :: (member.gap ++ ':' :: (member.item.toList ++ rest))) := by
    rw [Member.toList, List.append_assoc, skipSpace_append hspaced.before, List.cons_append,
      skipSpace_cons (by decide)]
    simp only [List.append_assoc, List.cons_append]
  have hcolon (rest : List Char) :
      skipSpace (member.gap ++ ':' :: rest) = ':' :: rest := by
    rw [skipSpace_append hspaced.gap, skipSpace_cons (by decide)]
  constructor
  · exact fun rest => ⟨_, _, hskip rest, by decide⟩
  · intro next rest hnext
    have hnext' : next ∈ [',', ']', '\x7d'] := by rcases hnext with rfl | rfl <;> decide
    refine ⟨_, ?_, skipSpace_next hspaced.item.after hnext' rest⟩
    simp only [hskip, readMember?, hkey.pieces?_eq, hcolon, Item.skipSpace_eq hspaced.item hvalue,
      hread _ (endsNumber_next hspaced.item.after hnext' rest), Option.bind_eq_bind,
      Option.bind_some, Member.value]

/-- A value is read up to its end. -/
theorem IsValue.readValue?_eq (h : IsValue cs raw) (hdepth : cs.length ≤ depth)
    (hrest : EndsNumber rest) : readValue? depth (cs ++ rest) = some (raw, rest) := by
  obtain ⟨depth, rfl⟩ : ∃ less, depth = less + 1 := by
    obtain ⟨c, tail, rfl, -⟩ := h.exists_cons
    exact Nat.exists_eq_succ_of_ne_zero (by rw [List.length_cons] at hdepth; omega)
  induction h generalizing depth rest with
  | null => rfl
  | true => rfl
  | false => rfl
  | number h =>
    obtain ⟨c, tail, rfl, hc⟩ := h.exists_cons
    rw [List.cons_append, readValue?_of_number hc, ← List.cons_append, h.readNumber?_eq hrest]
  | string h =>
    rw [List.cons_append, List.cons_append, List.append_assoc, List.singleton_append, readValue?,
      h.pieces?_eq, Option.map_some]
  | emptyArray h =>
    rw [List.cons_append, List.cons_append, List.append_assoc, List.singleton_append, readValue?,
      readEnclosed?_of_isSpaces h (by decide), Option.map_some]
  | @array items hne hspaced hitems ih =>
    simp only [List.length_append, List.length_cons, List.length_nil] at hdepth
    obtain ⟨depth, rfl⟩ : ∃ less, depth = less + 1 :=
      Nat.exists_eq_succ_of_ne_zero (by omega)
    have hparts : ∀ item ∈ items, Takes (readValue? (depth + 1)) ']' item.toList item.value := by
      intro item hmem
      have hlength := length_le_length_commaSeparated_map Item.toList hmem
      have htext := item.length_text_le
      exact Item.takes (hspaced item hmem) (hitems item hmem) fun rest hrest =>
        ih item hmem hrest depth (by omega)
    rw [List.cons_append, List.cons_append, List.append_assoc, List.singleton_append, readValue?,
      readEnclosed?_commaSeparated hne (by decide) hparts, Option.map_some]
  | emptyObject h =>
    rw [List.cons_append, List.cons_append, List.append_assoc, List.singleton_append, readValue?,
      readEnclosed?_of_isSpaces h (by decide), Option.map_some]
  | @object members hne hspaced hkeys hvalues ih =>
    simp only [List.length_append, List.length_cons, List.length_nil] at hdepth
    obtain ⟨depth, rfl⟩ : ∃ less, depth = less + 1 :=
      Nat.exists_eq_succ_of_ne_zero (by omega)
    have hparts : ∀ member ∈ members,
        Takes (readMember? (readValue? (depth + 1))) '\x7d' member.toList member.value := by
      intro member hmem
      have hlength := length_le_length_commaSeparated_map Member.toList hmem
      have htext := member.length_text_le
      exact Member.takes (hspaced member hmem) (hkeys member hmem) (hvalues member hmem)
        fun rest hrest => ih member hmem hrest depth (by omega)
    rw [List.cons_append, List.cons_append, List.append_assoc, List.singleton_append, readValue?,
      readEnclosed?_commaSeparated hne (by decide) hparts, Option.map_some]

/-- **The reader takes exactly the texts of the grammar**, and gives the values that they denote. -/
theorem Raw.read?_eq_some_iff {bytes : List UInt8} :
    Raw.read? bytes = some raw ↔ IsText (Text.byteChars bytes) raw := by
  rw [Raw.read?]
  constructor
  · intro h
    split at h
    · next value rest hread =>
      split at h
      · next hskip =>
        cases h
        obtain ⟨item, hcs, rfl, hspaced, hvalue⟩ := exists_item_of_readValue?
          (fun _ _ _ => exists_isValue_of_readValue?) hread
        rw [hskip, List.append_nil] at hcs
        exact ⟨item, hcs.symm, rfl, hspaced, hvalue⟩
      · cases h
    · cases h
  · rintro ⟨item, hcs, rfl, hspaced, hvalue⟩
    have hdepth : item.text.length ≤ (Text.byteChars bytes).length := hcs ▸ item.length_text_le
    have hskip := Item.skipSpace_eq hspaced hvalue []
    rw [List.append_nil, List.append_nil, hcs] at hskip
    have hafter := hspaced.after.endsNumber_append endsNumber_nil
    rw [List.append_nil] at hafter
    simp only [hskip, hvalue.readValue?_eq hdepth hafter,
      skipSpace_eq_nil_iff.2 hspaced.after, if_true]

end TorrentRemote.Json
