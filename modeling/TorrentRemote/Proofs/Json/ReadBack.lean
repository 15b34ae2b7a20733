import TorrentRemote.Json.Printer
import TorrentRemote.Proofs.Json.Fields
import TorrentRemote.Proofs.Json.Grammar

/-!
# Reading back printed JSON

A value that is printed is read as that value, whatever characters its texts and keys hold.  Numbers
with a fraction or an exponent stand in a value by their texts, which need not be numbers at all, so
values with such numbers are left out.

## Main definitions

* `Json.WithoutDecimals` : a value none of whose numbers has a fraction or an exponent.
* `Json.Raw.ofJson` : how the strings of a value are written when it is printed.

## Main results

* `Json.isValue_render` : the bytes of a printed value are those of a value of the grammar.
* `Json.read?_render` : a printed value as a whole text.
* `Json.Raw.toJson?_ofJson` : its strings tell what was written.
-/

namespace TorrentRemote.Json

open Text (utf8 byteChars)

variable {token : List Char} {pieces : List Piece} {bytes : List UInt8}

/-! ### Strings -/

/-- The pieces of a character as it is printed. -/
def piecesOfChar (c : Char) : List Piece :=
  if c.toNat < 0x20 ∨ c = '"' ∨ c = '\\' then (utf16 c).map .unit
  else (String.utf8EncodeChar c).map .byte

/-- The pieces of a text as it is printed. -/
def piecesOf (text : String) : List Piece := text.toList.flatMap piecesOfChar

theorem Spells.append_bytes (h : Spells pieces bytes) (first : List UInt8) :
    Spells (first.map .byte ++ pieces) (first ++ bytes) := by
  induction first with
  | nil => exact h
  | cons byte first ih => exact .byte ih

theorem Spells.append_char (h : Spells pieces bytes) (c : Char) :
    Spells (piecesOfChar c ++ pieces) (String.utf8EncodeChar c ++ bytes) := by
  rw [piecesOfChar]
  split
  · exact .escape h
  · exact h.append_bytes _

/-- A printed text tells what was written. -/
theorem spells_piecesOf (text : String) : Spells (piecesOf text) (utf8 text) := by
  rw [piecesOf, Text.utf8_eq_flatMap]
  induction text.toList with
  | nil => exact .nil
  | cons c cs ih => exact ih.append_char c

/-- The characters of a printed text, as a reader of bytes sees them. -/
def seen (cs : List Char) : List Char := byteChars (cs.flatMap String.utf8EncodeChar)

theorem byteChars_utf8 (text : String) : byteChars (utf8 text) = seen text.toList := by
  rw [Text.utf8_eq_flatMap, seen]

theorem seen_append (first second : List Char) :
    seen (first ++ second) = seen first ++ seen second := by
  rw [seen, List.flatMap_append, Text.byteChars_append, seen, seen]

/-- ASCII characters are seen as they are. -/
theorem seen_of_ascii {cs : List Char} (h : ∀ c ∈ cs, c.toNat < 0x80) : seen cs = cs :=
  Text.byteChars_encode_of_ascii h

/-- A character that needs no escape. -/
def IsPlain (c : Char) : Prop := 0x20 ≤ c.toNat ∧ c ≠ '"' ∧ c ≠ '\\'

theorem Written.append_bytes (h : Written token pieces) {first : List UInt8}
    (hfirst : ∀ c ∈ byteChars first, IsPlain c) :
    Written (byteChars first ++ token) (first.map .byte ++ pieces) := by
  induction first with
  | nil => exact h
  | cons byte first ih =>
    obtain ⟨⟨hcontrol, hquote, hbackslash⟩, hrest⟩ := List.forall_mem_cons.1 hfirst
    have hbyte := Written.byte hcontrol hquote hbackslash (ih hrest)
    rwa [Text.toUInt8_ofNat] at hbyte

/-- No byte of a character that needs no escape needs one. -/
theorem IsPlain.of_mem_encode {c d : Char} (h : IsPlain c)
    (hd : d ∈ byteChars (String.utf8EncodeChar c)) : IsPlain d := by
  by_cases hascii : c.toNat < 0x80
  · rw [Text.byteChars_encode_of_lt hascii, List.mem_singleton] at hd
    exact hd ▸ h
  · obtain ⟨byte, hbyte, rfl⟩ := List.mem_map.1 hd
    have hle := Text.le_of_mem_encode (by omega) hbyte
    rw [← Text.toNat_ofNat_byte] at hle
    refine ⟨by omega, ?_, ?_⟩ <;> rintro heq <;> rw [heq] at hle <;> exact absurd hle (by decide)

theorem isHex_hexDigit {n : Nat} (h : n < 16) : IsHex (Text.hexDigit n) n := by
  have hall : ∀ m : Fin 16, "0123456789abcdef".toList[m.val]? = some (Text.hexDigit m) := by decide
  exact .inl (hall ⟨n, h⟩)

theorem piecesOfChar_of_ascii {c : Char} (h : c.toNat < 0x20 ∨ c = '"' ∨ c = '\\') :
    piecesOfChar c = [.unit (UInt16.ofNat c.toNat)] := by
  have hone : c.toNat < 0x10000 := by
    rcases h with h | rfl | rfl
    · omega
    · decide
    · decide
  rw [piecesOfChar, if_pos h, utf16, if_pos hone, List.map_singleton]

/-- A character with an escape of one letter. -/
theorem Written.append_short (h : Written token pieces) {letter c : Char}
    (hletter : (letter, c) ∈ shortEscapes) (hascii : seen ['\\', letter] = ['\\', letter])
    (hc : c.toNat < 0x20 ∨ c = '"' ∨ c = '\\') :
    Written (seen ['\\', letter] ++ token) (piecesOfChar c ++ pieces) := by
  rw [hascii, piecesOfChar_of_ascii hc]
  exact .short hletter h

/-- A character is written as its escape or as its bytes. -/
theorem Written.append_char (h : Written token pieces) (c : Char) :
    Written (seen (escapeChar c) ++ token) (piecesOfChar c ++ pieces) := by
  unfold escapeChar
  split
  case h_8 hquote hbackslash _ _ _ _ _ =>
    split
    case isTrue hcontrol =>
      have hfirst : IsHex (Text.hexDigit (c.toNat / 16)) (c.toNat / 16) :=
        isHex_hexDigit (by omega)
      have hsecond : IsHex (Text.hexDigit (c.toNat % 16)) (c.toNat % 16) :=
        isHex_hexDigit (by omega)
      have hseen : seen ['\\', 'u', '0', '0', Text.hexDigit (c.toNat / 16),
          Text.hexDigit (c.toNat % 16)] = _ := seen_of_ascii (by simp [hfirst.lt.1, hsecond.lt.1])
      have hvalue : 0x1000 * 0 + 0x100 * 0 + 0x10 * (c.toNat / 16) + c.toNat % 16 = c.toNat := by
        omega
      have hhex := Written.hex (isHex_hexDigit (n := 0) (by omega))
        (isHex_hexDigit (n := 0) (by omega)) hfirst hsecond h
      rw [hvalue] at hhex
      rw [hseen, piecesOfChar_of_ascii (.inl hcontrol)]
      exact hhex
    case isFalse hcontrol =>
      rw [piecesOfChar, if_neg (not_or.2 ⟨hcontrol, not_or.2 ⟨hquote, hbackslash⟩⟩), seen,
        List.flatMap_singleton]
      exact h.append_bytes fun d hd => IsPlain.of_mem_encode ⟨by omega, hquote, hbackslash⟩ hd
  all_goals exact h.append_short (by decide) (by decide) (by decide)

theorem written_piecesOf (text : String) :
    Written (seen (text.toList.flatMap escapeChar)) (piecesOf text) := by
  rw [piecesOf]
  induction text.toList with
  | nil => exact .nil
  | cons c cs ih =>
    rw [List.flatMap_cons, seen_append]
    exact ih.append_char c

theorem seen_quote (text : String) : seen (quote text).toList =
    '"' :: seen (text.toList.flatMap escapeChar) ++ ['"'] := by
  have hquote : seen ['"'] = ['"'] := by decide
  rw [quote, String.toList_ofList, ← List.singleton_append, seen_append, seen_append, hquote,
    List.singleton_append]

/-! ### Numbers -/

/-- Zero is the only number whose digits begin with a zero. -/
theorem decimalDigits_eq_zero_cons {n : Nat} {cs : List Char}
    (h : Text.decimalDigits n = '0' :: cs) : n = 0 ∧ cs = [] := by
  induction n using Text.decimalDigits.induct generalizing cs with
  | case1 n hn =>
    rw [Text.decimalDigits, if_pos hn, List.cons_eq_cons] at h
    have hvalue := Text.toNat_decimalDigit hn
    rw [h.1] at hvalue
    exact ⟨by omega, h.2.symm⟩
  | case2 n hn ih =>
    rw [Text.decimalDigits, if_neg hn] at h
    obtain hnil | ⟨init, hinit, -⟩ := List.append_eq_cons_iff.1 h
    · exact absurd hnil.1 (Text.decimalDigits_ne_nil _)
    · exact absurd (ih hinit).1 (by omega)

theorem isWhole_decimalDigits (n : Nat) : IsWhole (Text.decimalDigits n) := by
  refine ⟨Text.isDigits_decimalDigits n, fun hhead => ?_⟩
  obtain ⟨cs, hdigits⟩ := List.head?_eq_some_iff.1 hhead
  rw [hdigits, (decimalDigits_eq_zero_cons hdigits).2]

/-- The digits of an integer are a number. -/
theorem isNumber_intDigits (n : Int) : IsNumber (Text.intDigits n) (.integer n) := by
  have hdigits := isWhole_decimalDigits n.natAbs
  have hvalue := Text.digitsNumber_decimalDigits n.natAbs
  rw [Text.intDigits]
  split
  · have hzero : Text.decimalDigits n.natAbs ≠ ['0'] := fun heq =>
      absurd (decimalDigits_eq_zero_cons heq).1 (by omega)
    have hnumber := IsNumber.negative hdigits hzero
    rwa [hvalue, show -(n.natAbs : Int) = n by omega] at hnumber
  · have hnumber := IsNumber.natural hdigits
    rwa [hvalue, show (n.natAbs : Int) = n by omega] at hnumber

theorem seen_intDigits (n : Int) : seen (Text.intDigits n) = Text.intDigits n := by
  refine seen_of_ascii fun c hc => ?_
  rcases Text.mem_intDigits hc with rfl | hdigit
  · decide
  · simp only [Char.isDigit, Bool.and_eq_true, decide_eq_true_eq, UInt32.le_iff_toNat_le,
      Char.reduceVal, UInt32.reduceToNat] at hdigit
    have hval : c.toNat = c.val.toNat := rfl
    omega

/-! ### Values -/

/-- The value has no number with a fraction or an exponent. -/
inductive WithoutDecimals : Json → Prop where
  | null : WithoutDecimals .null
  | bool (value : Bool) : WithoutDecimals (.bool value)
  | integer (value : Int) : WithoutDecimals (.integer value)
  | string (value : String) : WithoutDecimals (.string value)
  | array {items : List Json} (h : ∀ item ∈ items, WithoutDecimals item) :
    WithoutDecimals (.array items)
  | object {members : List (String × Json)} (h : ∀ member ∈ members, WithoutDecimals member.2) :
    WithoutDecimals (.object members)

namespace Raw

mutual

/-- A value with its strings as they are printed. -/
def ofJson : Json → Raw
  | .null => null
  | .bool value => bool value
  | .integer value => integer value
  | .decimal text => decimal text
  | .string value => string (piecesOf value)
  | .array items => array (itemsOfJson items)
  | .object members => object (membersOfJson members)

/-- The items of an array with their strings as they are printed. -/
def itemsOfJson : List Json → List Raw
  | [] => []
  | item :: items => ofJson item :: itemsOfJson items

/-- The members of an object with their strings as they are printed. -/
def membersOfJson : List (String × Json) → List (List Piece × Raw)
  | [] => []
  | member :: members => memberOfJson member :: membersOfJson members

/-- A member of an object with its strings as they are printed. -/
def memberOfJson : String × Json → List Piece × Raw
  | (key, value) => (piecesOf key, ofJson value)

end

theorem itemsOfJson_eq_map (items : List Json) : itemsOfJson items = items.map ofJson := by
  induction items with
  | nil => rw [itemsOfJson, List.map_nil]
  | cons item items ih => rw [itemsOfJson, ih, List.map_cons]

theorem membersOfJson_eq_map (members : List (String × Json)) :
    membersOfJson members = members.map fun member => (piecesOf member.1, ofJson member.2) := by
  induction members with
  | nil => rw [membersOfJson, List.map_nil]
  | cons member members ih => rw [membersOfJson, ih, List.map_cons, memberOfJson]

end Raw

theorem renderItems_eq_map (items : List Json) : renderItems items = items.map render := by
  induction items with
  | nil => rw [renderItems, List.map_nil]
  | cons item items ih => rw [renderItems, ih, List.map_cons]

theorem renderMembers_eq_map (members : List (String × Json)) :
    renderMembers members = members.map renderMember := by
  induction members with
  | nil => rw [renderMembers, List.map_nil]
  | cons member members ih => rw [renderMembers, ih, List.map_cons]

/-- Texts with commas between them are seen as what is seen of each, with commas between. -/
theorem seen_intercalate (texts : List String) :
    seen (String.intercalate "," texts).toList =
      commaSeparated (texts.map fun text => seen text.toList) := by
  have hcomma : seen [','] = [','] := by decide
  have hseparator : ",".toList = [','] := rfl
  rw [String.toList_intercalate, hseparator]
  induction texts with
  | nil => rfl
  | cons first texts ih =>
    cases texts with
    | nil => simp [commaSeparated]
    | cons second texts =>
      rw [List.map_cons, List.map_cons] at ih
      rw [List.map_cons, List.map_cons, List.map_cons, List.map_cons, List.intercalate_cons_cons,
        commaSeparated_cons_cons, List.append_assoc, seen_append, seen_append, hcomma, ih,
        List.singleton_append]

/-- A value as an item of an array or as the value of a member. -/
def itemOf (json : Json) : Item := ⟨[], seen json.render.toList, [], Raw.ofJson json⟩

/-- A member of an object as it is printed. -/
def memberOf (member : String × Json) : Member :=
  ⟨[], seen (member.1.toList.flatMap escapeChar), [], piecesOf member.1, itemOf member.2⟩

theorem isSpaced_itemOf (json : Json) : (itemOf json).IsSpaced := ⟨isSpaces_nil, isSpaces_nil⟩

theorem isSpaced_memberOf (member : String × Json) : (memberOf member).IsSpaced :=
  ⟨isSpaces_nil, isSpaces_nil, isSpaced_itemOf member.2⟩

theorem toList_itemOf (json : Json) : (itemOf json).toList = seen json.render.toList := by
  rw [Item.toList, itemOf, List.nil_append, List.append_nil]

theorem toList_memberOf (member : String × Json) :
    (memberOf member).toList = seen (renderMember member).toList := by
  have hcolon : seen ":".toList = [':'] := by decide
  rw [renderMember, String.toList_append, String.toList_append, seen_append, seen_append,
    seen_quote, hcolon, Member.toList]
  simp only [memberOf, toList_itemOf, List.nil_append, List.cons_append, List.append_assoc]

theorem seen_render_array (items : List Json) : seen (render (.array items)).toList =
    '[' :: commaSeparated ((items.map itemOf).map Item.toList) ++ [']'] := by
  have hopen : seen "[".toList = ['['] := by decide
  have hclose : seen "]".toList = [']'] := by decide
  have hitems : (items.map itemOf).map Item.toList =
      (items.map render).map fun text => seen text.toList := by
    rw [List.map_map, List.map_map]
    exact List.map_congr_left fun json _ => toList_itemOf json
  rw [render, renderItems_eq_map, String.toList_append, String.toList_append, seen_append,
    seen_append, hopen, hclose, seen_intercalate, ← hitems, List.singleton_append]

theorem seen_render_object (members : List (String × Json)) :
    seen (render (.object members)).toList =
      '\x7b' :: commaSeparated ((members.map memberOf).map Member.toList) ++ ['\x7d'] := by
  have hopen : seen "\x7b".toList = ['\x7b'] := by decide
  have hclose : seen "\x7d".toList = ['\x7d'] := by decide
  have hmembers : (members.map memberOf).map Member.toList =
      (members.map renderMember).map fun text => seen text.toList := by
    rw [List.map_map, List.map_map]
    exact List.map_congr_left fun member _ => toList_memberOf member
  rw [render, renderMembers_eq_map, String.toList_append, String.toList_append, seen_append,
    seen_append, hopen, hclose, seen_intercalate, ← hmembers, List.singleton_append]

/-- The text of a value without fractions and exponents is a value. -/
theorem isValue_render {json : Json} (h : json.WithoutDecimals) :
    IsValue (seen json.render.toList) (Raw.ofJson json) := by
  induction h with
  | null => exact .null
  | bool value =>
    cases value with
    | true => exact .true
    | false => exact .false
  | integer value =>
    rw [render, Text.showInt, String.toList_ofList, seen_intDigits, Raw.ofJson]
    exact .number (isNumber_intDigits value)
  | string value =>
    rw [render, seen_quote, Raw.ofJson]
    exact .string (written_piecesOf value)
  | @array items _ ih =>
    rw [seen_render_array, Raw.ofJson, Raw.itemsOfJson_eq_map]
    cases items with
    | nil => exact .emptyArray isSpaces_nil
    | cons item items =>
      change IsValue _ (.array ((item :: items).map (Item.value ∘ itemOf)))
      rw [← List.map_map]
      exact .array (List.cons_ne_nil _ _)
        (List.forall_mem_map.2 fun json _ => isSpaced_itemOf json)
        (List.forall_mem_map.2 fun json hmem => ih json hmem)
  | @object members _ ih =>
    rw [seen_render_object, Raw.ofJson, Raw.membersOfJson_eq_map]
    cases members with
    | nil => exact .emptyObject isSpaces_nil
    | cons member members =>
      change IsValue _ (.object ((member :: members).map (Member.value ∘ memberOf)))
      rw [← List.map_map]
      exact .object (List.cons_ne_nil _ _)
        (List.forall_mem_map.2 fun member _ => isSpaced_memberOf member)
        (List.forall_mem_map.2 fun member _ => written_piecesOf member.1)
        (List.forall_mem_map.2 fun member hmem => ih member hmem)

/-- The bytes of a printed value are read as the value, with its strings as they are printed. -/
theorem Raw.read?_render {json : Json} (h : json.WithoutDecimals) :
    Raw.read? (utf8 json.render) = some (Raw.ofJson json) := by
  rw [Raw.read?_eq_some_iff, byteChars_utf8]
  exact ⟨itemOf json, toList_itemOf json, rfl, isSpaced_itemOf json, isValue_render h⟩

theorem textOf?_piecesOf (text : String) : textOf? (piecesOf text) = some text :=
  textOf?_eq_some_iff.2 (spells_piecesOf text)

/-- A printed object is read as a record with its members. -/
theorem Raw.fields?_ofJson (keys : List String) (least : Nat) (members : List (String × Json)) :
    (Raw.ofJson (.object members)).fields? keys least =
      some (members.map fun member => (member.1, Raw.ofJson member.2)) := by
  rw [Raw.fields?_eq_some_iff, Raw.ofJson, Raw.membersOfJson_eq_map]
  refine .byName (List.forall₂_map_left_iff.2 (List.forall₂_map_right_iff.2 ?_))
  exact List.forall₂_same.2 fun member _ => ⟨spells_piecesOf member.1, rfl⟩

theorem Raw.itemsToJson?_itemsOfJson {items : List Json}
    (h : ∀ item ∈ items, (Raw.ofJson item).toJson? = some item) :
    Raw.itemsToJson? (Raw.itemsOfJson items) = some items := by
  induction items with
  | nil => rfl
  | cons item items ih =>
    obtain ⟨hitem, hitems⟩ := List.forall_mem_cons.1 h
    rw [Raw.itemsOfJson, Raw.itemsToJson?, hitem, ih hitems]
    rfl

theorem Raw.membersToJson?_membersOfJson {members : List (String × Json)}
    (h : ∀ member ∈ members, (Raw.ofJson member.2).toJson? = some member.2) :
    Raw.membersToJson? (Raw.membersOfJson members) = some members := by
  induction members with
  | nil => rfl
  | cons member members ih =>
    obtain ⟨hmember, hmembers⟩ := List.forall_mem_cons.1 h
    rw [Raw.membersOfJson, Raw.membersToJson?, Raw.memberOfJson, Raw.memberToJson?,
      textOf?_piecesOf, hmember, ih hmembers]
    rfl

/-- The strings of a printed value tell what was written. -/
theorem Raw.toJson?_ofJson {json : Json} (h : json.WithoutDecimals) :
    (Raw.ofJson json).toJson? = some json := by
  induction h with
  | null => rfl
  | bool value => rfl
  | integer value => rfl
  | string value => rw [Raw.ofJson, Raw.toJson?, textOf?_piecesOf, Option.map_some]
  | array _ ih =>
    rw [Raw.ofJson, Raw.toJson?, Raw.itemsToJson?_itemsOfJson ih, Option.map_some]
  | object _ ih =>
    rw [Raw.ofJson, Raw.toJson?, Raw.membersToJson?_membersOfJson ih, Option.map_some]

/-- **A printed value is read back.**  The text of a value without fractions and exponents denotes
this value, whatever characters its texts and keys hold. -/
theorem parse?_render {json : Json} (h : json.WithoutDecimals) :
    parse? json.render = some json := by
  rw [parse?, Raw.read?_render h, Option.bind_some, Raw.toJson?_ofJson h]

end TorrentRemote.Json
