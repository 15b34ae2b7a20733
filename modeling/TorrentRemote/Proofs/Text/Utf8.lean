import TorrentRemote.Text.Utf8
import Mathlib.Data.List.Basic

/-!
# Texts and their bytes

Bytes are read as a text exactly if they are the UTF-8 bytes of it.  The byte of an ASCII character,
seen as a character, is this character, and all bytes of other characters lie beyond ASCII.

## Main results

* `Text.ofUtf8?_eq_some_iff` : which text bytes are.
* `Text.utf8_eq_flatMap` : the bytes of a text are those of its characters.
* `Text.byteChars_encode_of_lt`, `Text.le_of_mem_encode` : the bytes of one character.
* `Text.byteChars_encode_of_ascii`, `Text.utf8_ofList_byteChars` : texts within ASCII.
-/

namespace TorrentRemote.Text

theorem ofUtf8?_eq_some_iff {bytes : List UInt8} {text : String} :
    ofUtf8? bytes = some text ↔ bytes = utf8 text := by
  have hbytes : (⟨bytes.toArray⟩ : ByteArray) = text.toByteArray ↔ bytes = utf8 text := by
    rw [utf8, String.toUTF8, ByteArray.ext_iff, ← Array.toList_inj]
  rw [← hbytes, ofUtf8?, String.fromUTF8?]
  constructor
  · intro h
    split at h <;> cases h
    rfl
  · intro h
    have hvalid : (⟨bytes.toArray⟩ : ByteArray).IsValidUTF8 := h ▸ text.isValidUTF8
    rw [dif_pos hvalid, Option.some.injEq, ← String.toByteArray_inj]
    exact h

theorem utf8_eq_flatMap (text : String) :
    utf8 text = text.toList.flatMap String.utf8EncodeChar := by
  have hbytes := String.toByteArray_ofList (l := text.toList)
  rw [String.ofList_toList] at hbytes
  rw [utf8, String.toUTF8, hbytes, List.utf8Encode]
  simp

/-! ### Bytes as characters -/

theorem toNat_ofNat_byte (byte : UInt8) : (Char.ofNat byte.toNat).toNat = byte.toNat := by
  have hvalid : byte.toNat.isValidChar := .inl (Nat.lt_trans byte.toNat_lt (by decide))
  rw [Char.ofNat, dif_pos hvalid]
  rfl

theorem toUInt8_ofNat (byte : UInt8) : (Char.ofNat byte.toNat).toUInt8 = byte := by
  have hbyte := byte.toNat_lt
  have hchar := toNat_ofNat_byte byte
  apply UInt8.toNat_inj.1
  rw [Char.toUInt8, UInt32.toNat_toUInt8]
  change (Char.ofNat byte.toNat).toNat % 2 ^ 8 = _
  omega

theorem byteChars_append (first second : List UInt8) :
    byteChars (first ++ second) = byteChars first ++ byteChars second :=
  List.map_append

theorem byteChars_injective : Function.Injective byteChars := by
  refine List.map_injective_iff.2 fun first second h => ?_
  have hchar : (Char.ofNat first.toNat).toUInt8 = (Char.ofNat second.toNat).toUInt8 :=
    congrArg Char.toUInt8 h
  rwa [toUInt8_ofNat, toUInt8_ofNat] at hchar

theorem byteChars_encode_of_lt {c : Char} (h : c.toNat < 0x80) :
    byteChars (String.utf8EncodeChar c) = [c] := by
  have hval : c.val.toNat = c.toNat := rfl
  rw [String.utf8EncodeChar, hval, if_pos (by omega), byteChars, List.map_singleton,
    UInt8.toNat_ofNat_of_lt' (Nat.lt_trans h (by decide)), Char.ofNat_toNat]

/-- The bytes of an ASCII text are its characters. -/
theorem byteChars_encode_of_ascii {cs : List Char} (h : ∀ c ∈ cs, c.toNat < 0x80) :
    byteChars (cs.flatMap String.utf8EncodeChar) = cs := by
  induction cs with
  | nil => rfl
  | cons c cs ih =>
    obtain ⟨hc, hcs⟩ := List.forall_mem_cons.1 h
    rw [List.flatMap_cons, byteChars_append, byteChars_encode_of_lt hc, ih hcs,
      List.singleton_append]

/-- ASCII bytes are those of a text with these characters. -/
theorem utf8_ofList_byteChars {bytes : List UInt8} (h : ∀ byte ∈ bytes, byte.toNat < 0x80) :
    utf8 (String.ofList (byteChars bytes)) = bytes := by
  refine byteChars_injective ?_
  rw [utf8_eq_flatMap, String.toList_ofList]
  refine byteChars_encode_of_ascii (List.forall_mem_map.2 fun byte hbyte => ?_)
  rw [toNat_ofNat_byte]
  exact h byte hbyte

theorem le_of_mem_encode {c : Char} (h : 0x80 ≤ c.toNat) {byte : UInt8}
    (hbyte : byte ∈ String.utf8EncodeChar c) : 0x80 ≤ byte.toNat := by
  have hval : c.val.toNat = c.toNat := rfl
  have hlarge {n k : Nat} (hk : 0x80 ≤ k) (hn : n + k < 256) :
      0x80 ≤ (UInt8.ofNat (n + k)).toNat := by
    rw [UInt8.toNat_ofNat_of_lt' hn]
    omega
  rw [String.utf8EncodeChar, hval, if_neg (by omega)] at hbyte
  split at hbyte
  · simp only [List.mem_cons, List.not_mem_nil, or_false] at hbyte
    rcases hbyte with rfl | rfl <;> exact hlarge (by omega) (by omega)
  · split at hbyte <;> simp only [List.mem_cons, List.not_mem_nil, or_false] at hbyte
    · rcases hbyte with rfl | rfl | rfl <;> exact hlarge (by omega) (by omega)
    · rcases hbyte with rfl | rfl | rfl | rfl <;> exact hlarge (by omega) (by omega)

end TorrentRemote.Text
