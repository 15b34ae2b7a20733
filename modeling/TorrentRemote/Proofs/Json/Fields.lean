import TorrentRemote.Json.Fields
import TorrentRemote.Proofs.Lookup
import TorrentRemote.Proofs.Text.Decimal
import TorrentRemote.Proofs.Text.Utf8
import Mathlib.Data.List.Basic

/-!
# What JSON values tell

A string tells a text, a number an integer, and a record the values of its fields.  What each of
them tells is said without the functions that read it.

## Main definitions

* `Json.Spells` : the bytes that the pieces of a string stand for.
* `Json.TextTells` : the text of a value.
* `Json.GivesFields` : the fields of a record that is written as an object or as an array.
* `Json.FieldTells` : what the field with a key tells.

## Main results

* `Json.bytes?_eq_some_iff`, `Json.Raw.text?_eq_some_iff` : the readers of strings.
* `Json.Raw.fields?_eq_some_iff` : the reader of records.
* `Json.Fields.required?_eq_some_iff`, `Json.Fields.optional?_eq_some_iff` : the readers of fields.
-/

namespace TorrentRemote.Json

variable {raw : Raw} {pieces : List Piece} {bytes : List UInt8}

/-! ### Strings -/

/-- The UTF-16 code units of a character. -/
def utf16 (c : Char) : List UInt16 :=
  if c.toNat < 0x10000 then [UInt16.ofNat c.toNat]
  else [UInt16.ofNat (0xD800 + (c.toNat - 0x10000) / 0x400),
    UInt16.ofNat (0xDC00 + (c.toNat - 0x10000) % 0x400)]

/-- The pieces of a string, and the bytes that they stand for: those of an escaped character are its
UTF-8 bytes. -/
inductive Spells : List Piece → List UInt8 → Prop
  | nil : Spells [] []
  | byte {value : UInt8} {pieces : List Piece} {bytes : List UInt8} (h : Spells pieces bytes) :
    Spells (.byte value :: pieces) (value :: bytes)
  | escape {c : Char} {pieces : List Piece} {bytes : List UInt8} (h : Spells pieces bytes) :
    Spells ((utf16 c).map .unit ++ pieces) (String.utf8EncodeChar c ++ bytes)

theorem isHigh_iff {unit : UInt16} : isHigh unit ↔ 0xD800 ≤ unit.toNat ∧ unit.toNat ≤ 0xDBFF := by
  simp [isHigh, UInt16.le_iff_toNat_le]

theorem isLow_iff {unit : UInt16} : isLow unit ↔ 0xDC00 ≤ unit.toNat ∧ unit.toNat ≤ 0xDFFF := by
  simp [isLow, UInt16.le_iff_toNat_le]

theorem toNat_valid (c : Char) : c.toNat < 0xD800 ∨ (0xDFFF < c.toNat ∧ c.toNat < 0x110000) :=
  c.valid

theorem toNat_ofNat {n : Nat} (h : n < 0xD800 ∨ (0xDFFF < n ∧ n < 0x110000)) :
    (Char.ofNat n).toNat = n := by
  rw [Char.ofNat, dif_pos h]
  rfl

/-- A code unit that belongs to no pair is the only one of its character. -/
theorem utf16_ofNat {unit : UInt16} (hhigh : ¬ isHigh unit) (hlow : ¬ isLow unit) :
    utf16 (Char.ofNat unit.toNat) = [unit] := by
  rw [isHigh_iff] at hhigh
  rw [isLow_iff] at hlow
  have hunit := unit.toNat_lt
  have hvalue : (Char.ofNat unit.toNat).toNat = unit.toNat := toNat_ofNat (by omega)
  rw [utf16, hvalue, if_pos (by omega), UInt16.ofNat_toNat]

theorem utf16_pairChar {high low : UInt16} (hhigh : isHigh high) (hlow : isLow low) :
    utf16 (pairChar high low) = [high, low] := by
  rw [isHigh_iff] at hhigh
  rw [isLow_iff] at hlow
  have hvalue : (pairChar high low).toNat =
      0x10000 + (high.toNat - 0xD800) * 0x400 + (low.toNat - 0xDC00) := toNat_ofNat (by omega)
  have hfirst : 0xD800 + ((pairChar high low).toNat - 0x10000) / 0x400 = high.toNat := by omega
  have hsecond : 0xDC00 + ((pairChar high low).toNat - 0x10000) % 0x400 = low.toNat := by omega
  rw [utf16, if_neg (by omega), hfirst, hsecond, UInt16.ofNat_toNat, UInt16.ofNat_toNat]

/-- What is read from pieces is what they spell, also after the first half of a pair. -/
theorem spells_of_bytes? {high : Option UInt16} (h : bytes? high pieces = some bytes)
    (hhigh : ∀ unit ∈ high, isHigh unit) : Spells (high.toList.map .unit ++ pieces) bytes := by
  fun_induction bytes? high pieces generalizing bytes with
  | case1 =>
    cases h
    exact .nil
  | case2 value pieces ih =>
    obtain ⟨bytes, hbytes, rfl⟩ := Option.map_eq_some_iff.1 h
    exact .byte (ih hbytes hhigh)
  | case3 value pieces hvalue ih =>
    exact ih h fun unit hunit => by
      cases hunit
      exact hvalue
  | case4 => cases h
  | case5 value pieces hvalue hvalue' ih =>
    obtain ⟨bytes, hbytes, rfl⟩ := Option.map_eq_some_iff.1 h
    have hescape := (ih hbytes hhigh).escape (c := Char.ofNat value.toNat)
    rwa [utf16_ofNat hvalue hvalue'] at hescape
  | case6 high value pieces hvalue ih =>
    obtain ⟨bytes, hbytes, rfl⟩ := Option.map_eq_some_iff.1 h
    have hescape := (ih hbytes nofun).escape (c := pairChar high value)
    rwa [utf16_pairChar (hhigh high rfl) hvalue] at hescape
  | case7 => cases h
  | case8 => cases h

theorem bytes?_unit {unit : UInt16} (hhigh : ¬ isHigh unit) (hlow : ¬ isLow unit) :
    bytes? none (.unit unit :: pieces) =
      (bytes? none pieces).map (String.utf8EncodeChar (Char.ofNat unit.toNat) ++ ·) := by
  rw [bytes?, if_neg hhigh, if_neg hlow]

theorem bytes?_pair {high low : UInt16} (hhigh : isHigh high) (hlow : isLow low) :
    bytes? none (.unit high :: .unit low :: pieces) =
      (bytes? none pieces).map (String.utf8EncodeChar (pairChar high low) ++ ·) := by
  rw [bytes?, if_pos hhigh, bytes?, if_pos hlow]

/-- A character is read from its code units. -/
theorem bytes?_utf16 (c : Char) (pieces : List Piece) :
    bytes? none ((utf16 c).map .unit ++ pieces) =
      (bytes? none pieces).map (String.utf8EncodeChar c ++ ·) := by
  have hvalid := toNat_valid c
  rw [utf16]
  split
  · next hone =>
    have hunit : (UInt16.ofNat c.toNat).toNat = c.toNat := UInt16.toNat_ofNat_of_lt' hone
    have hhigh : ¬ isHigh (UInt16.ofNat c.toNat) := by
      rw [isHigh_iff, hunit]
      omega
    have hlow : ¬ isLow (UInt16.ofNat c.toNat) := by
      rw [isLow_iff, hunit]
      omega
    rw [List.map_singleton, List.singleton_append, bytes?_unit hhigh hlow, hunit, Char.ofNat_toNat]
  · next htwo =>
    have hsize : UInt16.size = 65536 := rfl
    generalize hfirst : 0xD800 + (c.toNat - 0x10000) / 0x400 = first
    generalize hsecond : 0xDC00 + (c.toNat - 0x10000) % 0x400 = second
    have hfirst' : (UInt16.ofNat first).toNat = first := UInt16.toNat_ofNat_of_lt' (by omega)
    have hsecond' : (UInt16.ofNat second).toNat = second := UInt16.toNat_ofNat_of_lt' (by omega)
    have hhigh : isHigh (UInt16.ofNat first) := by
      rw [isHigh_iff, hfirst']
      omega
    have hlow : isLow (UInt16.ofNat second) := by
      rw [isLow_iff, hsecond']
      omega
    have hchar : 0x10000 + (first - 0xD800) * 0x400 + (second - 0xDC00) = c.toNat := by omega
    simp only [List.map_cons, List.map_nil, List.cons_append, List.nil_append]
    rw [bytes?_pair hhigh hlow, pairChar, hfirst', hsecond', hchar, Char.ofNat_toNat]

theorem Spells.bytes?_eq (h : Spells pieces bytes) : bytes? none pieces = some bytes := by
  induction h with
  | nil => rfl
  | byte _ ih => rw [bytes?, ih, Option.map_some]
  | escape _ ih => rw [bytes?_utf16, ih, Option.map_some]

theorem bytes?_eq_some_iff : bytes? none pieces = some bytes ↔ Spells pieces bytes :=
  ⟨fun h => spells_of_bytes? h nofun, Spells.bytes?_eq⟩

theorem textOf?_eq_some_iff {text : String} :
    textOf? pieces = some text ↔ Spells pieces (Text.utf8 text) := by
  simp only [textOf?, Option.bind_eq_some_iff, bytes?_eq_some_iff, Text.ofUtf8?_eq_some_iff,
    exists_eq_right]

/-! ### Values -/

/-- A value tells a text. -/
def TextTells (raw : Raw) (text : String) : Prop :=
  ∃ pieces, raw = .string pieces ∧ Spells pieces (Text.utf8 text)

theorem Raw.text?_eq_some_iff {text : String} : raw.text? = some text ↔ TextTells raw text := by
  cases raw <;> simp [Raw.text?, TextTells, textOf?_eq_some_iff]

theorem Raw.bool?_eq_some_iff {value : Bool} : raw.bool? = some value ↔ raw = .bool value := by
  cases raw <;> simp [Raw.bool?]

theorem Raw.int64?_eq_some_iff {value : Int64} :
    raw.int64? = some value ↔ raw = .integer value.toInt := by
  cases raw <;> simp [Raw.int64?, Text.toInt64?_eq_some_iff]

/-- A value tells something unless it is null. -/
inductive NullableTells {α : Type} (Tells : Raw → α → Prop) : Raw → Option α → Prop
  | null : NullableTells Tells .null none
  | told {raw : Raw} {a : α} (hnull : raw ≠ .null) (h : Tells raw a) :
    NullableTells Tells raw (some a)

theorem Raw.nullable?_eq_some_iff {α : Type} {read : Raw → Option α} {Tells : Raw → α → Prop}
    (hread : ∀ raw a, read raw = some a ↔ Tells raw a) {value : Option α} :
    raw.nullable? read = some value ↔ NullableTells Tells raw value := by
  constructor
  · intro h
    unfold nullable? at h
    split at h
    · cases h
      exact .null
    · next hnull =>
      obtain ⟨a, ha, rfl⟩ := Option.map_eq_some_iff.1 h
      exact .told hnull ((hread _ _).1 ha)
  · intro h
    cases h with
    | null => rfl
    | told hnull h =>
      have hsome := (hread _ _).2 h
      cases raw with
      | null => exact absurd rfl hnull
      | _ => exact Option.map_eq_some_iff.2 ⟨_, hsome, rfl⟩

/-! ### Fields -/

/-- The fields of a record with the given keys: the members of an object by their names, or the
items of an array by their places, of which the last may be missing as long as `least` are there. -/
inductive GivesFields (keys : List String) (least : Nat) : Raw → Fields Raw → Prop
  | byName {members : List (List Piece × Raw)} {fields : Fields Raw}
      (h : List.Forall₂
        (fun member field => Spells member.1 (Text.utf8 field.1) ∧ member.2 = field.2)
        members fields) :
    GivesFields keys least (.object members) fields
  | byPlace {fields : Fields Raw} (hkeys : fields.map Prod.fst <+: keys)
      (hleast : least ≤ fields.length) :
    GivesFields keys least (.array (fields.map Prod.snd)) fields

/-- Values by their places, if there are no more of them than keys. -/
theorem zip_eq_iff {keys : List String} {items : List Raw} {fields : Fields Raw}
    (hlength : items.length ≤ keys.length) :
    keys.zip items = fields ↔ fields.map Prod.fst <+: keys ∧ fields.map Prod.snd = items := by
  have hzip {first : List String} (rest : List String) (h : first.length = items.length) :
      (first ++ rest).zip items = first.zip items := by
    have happend : (first ++ rest).zip (items ++ []) = first.zip items ++ rest.zip [] :=
      List.zip_append h
    rwa [List.append_nil, List.zip_nil_right, List.append_nil] at happend
  constructor
  · rintro rfl
    have htake : (keys.take items.length).length = items.length := List.length_take_of_le hlength
    have hkeys := hzip (keys.drop items.length) htake
    rw [List.take_append_drop] at hkeys
    rw [hkeys, List.map_fst_zip htake.le, List.map_snd_zip htake.ge]
    exact ⟨List.take_prefix _ _, rfl⟩
  · rintro ⟨⟨rest, rfl⟩, rfl⟩
    rw [hzip rest (by simp), ← List.zip_of_prod rfl rfl]

/-- A record is read exactly if it gives fields, and they are what is read. -/
theorem Raw.fields?_eq_some_iff {keys : List String} {least : Nat} {fields : Fields Raw} :
    raw.fields? keys least = some fields ↔ GivesFields keys least raw fields := by
  constructor
  · intro h
    unfold fields? at h
    split at h
    · next members =>
      refine .byName ((Lookup.mapM_eq_some_iff_forall₂.1 h).imp fun member field hfield => ?_)
      obtain ⟨name, hname, rfl⟩ := Option.map_eq_some_iff.1 hfield
      exact ⟨textOf?_eq_some_iff.1 hname, rfl⟩
    · next items =>
      split at h
      · next hlength =>
        obtain ⟨hkeys, rfl⟩ := (zip_eq_iff hlength.2).1 (Option.some.inj h)
        exact .byPlace hkeys (by simpa using hlength.1)
      · cases h
    · cases h
  · intro h
    cases h with
    | byName h =>
      refine Lookup.mapM_eq_some_iff_forall₂.2 (h.imp fun member field hfield => ?_)
      change (textOf? member.1).map (fun name => (name, member.2)) = some field
      rw [textOf?_eq_some_iff.2 hfield.1, Option.map_some, hfield.2]
    | byPlace hkeys hleast =>
      have hlength := hkeys.length_le
      rw [List.length_map] at hlength
      rw [fields?, if_pos (by simpa using ⟨hleast, hlength⟩),
        (zip_eq_iff (by simpa using hlength)).2 ⟨hkeys, rfl⟩]

/-- What the only field with a key tells, or the default if there is none. -/
inductive FieldTells {α β : Type} (Tells : β → α → Prop) (default : Option α) (key : String) :
    Fields β → α → Prop
  | given {before after : Fields β} {value : β} {a : α} (hbefore : key ∉ before.map Prod.fst)
      (hafter : key ∉ after.map Prod.fst) (h : Tells value a) :
    FieldTells Tells default key (before ++ (key, value) :: after) a
  | missing {fields : Fields β} {a : α} (hmissing : key ∉ fields.map Prod.fst)
      (hdefault : a ∈ default) : FieldTells Tells default key fields a

namespace Fields

variable {α β : Type} {fields : Fields β} {key : String} {value : β} {read : β → Option α}
  {Tells : β → α → Prop} {a default : α}

theorem filter_eq_nil_iff :
    (fields.filter fun field => field.1 == key) = [] ↔ key ∉ fields.map Prod.fst := by
  simp only [List.filter_eq_nil_iff, beq_iff_eq, List.mem_map, not_exists, not_and]

theorem valuesAt_eq_nil_iff : fields.valuesAt key = [] ↔ key ∉ fields.map Prod.fst := by
  rw [valuesAt, List.map_eq_nil_iff, filter_eq_nil_iff]

theorem valuesAt_eq_singleton_iff : fields.valuesAt key = [value] ↔ ∃ before after,
    fields = before ++ (key, value) :: after ∧ key ∉ before.map Prod.fst ∧
      key ∉ after.map Prod.fst := by
  simp only [valuesAt, List.map_eq_singleton_iff, List.filter_eq_cons_iff, filter_eq_nil_iff,
    beq_iff_eq]
  constructor
  · rintro ⟨⟨_, _⟩, ⟨before, after, rfl, hbefore, rfl, hafter⟩, rfl⟩
    refine ⟨before, after, rfl, ?_, hafter⟩
    rw [List.mem_map]
    rintro ⟨field, hmem, heq⟩
    exact hbefore field hmem heq
  · rintro ⟨before, after, rfl, hbefore, hafter⟩
    refine ⟨(key, value), ⟨before, after, rfl, fun field hmem heq => ?_, rfl, hafter⟩, rfl⟩
    exact hbefore (List.mem_map.2 ⟨field, hmem, heq⟩)

theorem required?_eq_some_iff (hread : ∀ value a, read value = some a ↔ Tells value a) :
    fields.required? read key = some a ↔ FieldTells Tells none key fields a := by
  constructor
  · intro h
    rw [required?] at h
    split at h
    · next value hvalue =>
      obtain ⟨before, after, rfl, hbefore, hafter⟩ := valuesAt_eq_singleton_iff.1 hvalue
      exact .given hbefore hafter ((hread _ _).1 h)
    · cases h
  · intro h
    cases h with
    | given hbefore hafter h =>
      rw [required?, valuesAt_eq_singleton_iff.2 ⟨_, _, rfl, hbefore, hafter⟩]
      exact (hread _ _).2 h
    | missing _ hdefault => cases hdefault

theorem optional?_eq_some_iff (hread : ∀ value a, read value = some a ↔ Tells value a) :
    fields.optional? read default key = some a ↔ FieldTells Tells (some default) key fields a := by
  constructor
  · intro h
    rw [optional?] at h
    split at h
    · next hnone => exact .missing (valuesAt_eq_nil_iff.1 hnone) h
    · next value hvalue =>
      obtain ⟨before, after, rfl, hbefore, hafter⟩ := valuesAt_eq_singleton_iff.1 hvalue
      exact .given hbefore hafter ((hread _ _).1 h)
    · cases h
  · intro h
    cases h with
    | given hbefore hafter h =>
      rw [optional?, valuesAt_eq_singleton_iff.2 ⟨_, _, rfl, hbefore, hafter⟩]
      exact (hread _ _).2 h
    | missing hmissing hdefault =>
      rw [optional?, valuesAt_eq_nil_iff.2 hmissing]
      exact hdefault

end Fields

end TorrentRemote.Json
