import TorrentRemote.Json.Parser
import TorrentRemote.Proofs.Text.Decimal
import Mathlib.Data.List.Basic
import Mathlib.Data.List.TakeWhile

/-!
# Strings and numbers in JSON

What a string and a number look like in a JSON text is said without a reader: by the escapes of a
string and the parts of a number.  The readers take exactly these.

## Main definitions

* `Json.Written` : what stands between the quotes of a string, and its pieces.
* `Json.IsNumber` : numbers and their values.

## Main results

* `Json.Written.pieces?_eq`, `Json.exists_written_of_pieces?` : the reader of strings.
* `Json.IsNumber.readNumber?_eq`, `Json.exists_isNumber_of_readNumber?` : the reader of numbers.
-/

namespace TorrentRemote.Json

open Text (IsDigits digitsNumber)

variable {cs rest token digits : List Char} {pieces : List Piece}

/-! ### Strings -/

/-- A hexadecimal digit and its value. -/
def IsHex (c : Char) (n : Nat) : Prop :=
  "0123456789abcdef".toList[n]? = some c ∨ "0123456789ABCDEF".toList[n]? = some c

/-- The letters of short escapes, and the characters that they stand for. -/
def shortEscapes : List (Char × Char) :=
  [('"', '"'), ('\\', '\\'), ('/', '/'), ('b', '\x08'), ('f', '\x0c'), ('n', '\n'), ('r', '\r'),
    ('t', '\t')]

/-- What stands between the quotes of a string, and its pieces. -/
inductive Written : List Char → List Piece → Prop
  | nil : Written [] []
  | byte {c : Char} {token : List Char} {pieces : List Piece} (hcontrol : 0x20 ≤ c.toNat)
      (hquote : c ≠ '"') (hbackslash : c ≠ '\\') (h : Written token pieces) :
    Written (c :: token) (.byte c.toUInt8 :: pieces)
  | short {letter c : Char} {token : List Char} {pieces : List Piece}
      (hletter : (letter, c) ∈ shortEscapes) (h : Written token pieces) :
    Written ('\\' :: letter :: token) (.unit (UInt16.ofNat c.toNat) :: pieces)
  | hex {a b c d : Char} {i j k l : Nat} {token : List Char} {pieces : List Piece}
      (ha : IsHex a i) (hb : IsHex b j) (hc : IsHex c k) (hd : IsHex d l)
      (h : Written token pieces) :
    Written ('\\' :: 'u' :: a :: b :: c :: d :: token)
      (.unit (UInt16.ofNat (0x1000 * i + 0x100 * j + 0x10 * k + l)) :: pieces)

theorem IsHex.lt {c : Char} {n : Nat} (h : IsHex c n) : c.toNat < 128 ∧ n < 16 := by
  have hlower : ∀ d ∈ "0123456789abcdef".toList, d.toNat < 128 := by simp
  have hupper : ∀ d ∈ "0123456789ABCDEF".toList, d.toNat < 128 := by simp
  rcases h with h | h
  · exact ⟨hlower c (List.mem_of_getElem? h), (List.getElem?_eq_some_iff.1 h).1⟩
  · exact ⟨hupper c (List.mem_of_getElem? h), (List.getElem?_eq_some_iff.1 h).1⟩

theorem lt_of_hexValue?_eq_some {c : Char} {n : Nat} (h : Text.hexValue? c = some n) :
    c.toNat < 128 ∧ n < 16 := by
  simp only [Text.hexValue?, Char.isDigit, Char.le_def, UInt32.le_iff_toNat_le, Bool.and_eq_true,
    decide_eq_true_eq, Char.reduceVal, UInt32.reduceToNat] at h
  have hval : c.toNat = c.val.toNat := rfl
  split_ifs at h <;> cases h <;> simp only [hval, Char.reduceToNat] <;> omega

theorem hexValue?_eq_some_iff {c : Char} {n : Nat} : Text.hexValue? c = some n ↔ IsHex c n := by
  have hascii : ∀ (code : Fin 128) (m : Fin 16),
      Text.hexValue? (Char.ofNat code) = some m.val ↔ IsHex (Char.ofNat code) m := by
    unfold IsHex
    decide +kernel
  constructor
  · intro h
    obtain ⟨hc, hn⟩ := lt_of_hexValue?_eq_some h
    have hiff := hascii ⟨c.toNat, hc⟩ ⟨n, hn⟩
    rw [Char.ofNat_toNat] at hiff
    exact hiff.1 h
  · intro h
    obtain ⟨hc, hn⟩ := h.lt
    have hiff := hascii ⟨c.toNat, hc⟩ ⟨n, hn⟩
    rw [Char.ofNat_toNat] at hiff
    exact hiff.2 h

theorem hex4?_eq_some_iff {a b c d : Char} {unit : UInt16} : hex4? a b c d = some unit ↔
    ∃ i j k l, IsHex a i ∧ IsHex b j ∧ IsHex c k ∧ IsHex d l ∧
      UInt16.ofNat (0x1000 * i + 0x100 * j + 0x10 * k + l) = unit := by
  simp only [hex4?, Option.bind_eq_bind, Option.bind_eq_some_iff, Option.some.injEq,
    hexValue?_eq_some_iff]
  have hplaces (i j k l : Nat) :
      ((i * 16 + j) * 16 + k) * 16 + l = 0x1000 * i + 0x100 * j + 0x10 * k + l := by omega
  constructor
  · rintro ⟨i, hi, j, hj, k, hk, l, hl, rfl⟩
    exact ⟨i, j, k, l, hi, hj, hk, hl, by rw [hplaces]⟩
  · rintro ⟨i, j, k, l, hi, hj, hk, hl, rfl⟩
    exact ⟨i, hi, j, hj, k, hk, l, hl, by rw [hplaces]⟩

theorem shortEscape?_eq_some_iff {letter c : Char} :
    shortEscape? letter = some c ↔ (letter, c) ∈ shortEscapes := by
  unfold shortEscape?
  split <;> simp_all [shortEscapes, eq_comm]

theorem pieces?_hex (a b c d : Char) (cs : List Char) :
    pieces? ('\\' :: 'u' :: a :: b :: c :: d :: cs) = (hex4? a b c d).bind fun unit =>
      (pieces? cs).map fun p => (.unit unit :: p.1, p.2) :=
  rfl

theorem pieces?_short {letter c : Char} (h : shortEscape? letter = some c) (cs : List Char) :
    pieces? ('\\' :: letter :: cs) =
      (pieces? cs).map fun p => (.unit (UInt16.ofNat c.toNat) :: p.1, p.2) := by
  rw [pieces?, h]
  · rfl
  · rintro _ _ _ _ _ rfl
    cases h

theorem pieces?_byte {c : Char} (hcontrol : 0x20 ≤ c.toNat) (hquote : c ≠ '"')
    (hbackslash : c ≠ '\\') (cs : List Char) :
    pieces? (c :: cs) = (pieces? cs).map fun p => (.byte c.toUInt8 :: p.1, p.2) := by
  rw [pieces?.eq_4 c cs hquote, if_neg (not_or.2 ⟨by omega, hbackslash⟩)]
  · exact fun _ _ _ _ _ heq => absurd heq hbackslash
  · exact fun _ _ heq => absurd heq hbackslash

/-- A string is read up to its closing quote. -/
theorem Written.pieces?_eq (h : Written token pieces) (rest : List Char) :
    pieces? (token ++ '"' :: rest) = some (pieces, rest) := by
  induction h with
  | nil => rfl
  | byte hcontrol hquote hbackslash _ ih =>
    rw [List.cons_append, pieces?_byte hcontrol hquote hbackslash, ih, Option.map_some]
  | short hletter _ ih =>
    rw [List.cons_append, List.cons_append, pieces?_short (shortEscape?_eq_some_iff.2 hletter), ih,
      Option.map_some]
  | hex ha hb hc hd _ ih =>
    simp only [List.cons_append]
    rw [pieces?_hex, hex4?_eq_some_iff.2 ⟨_, _, _, _, ha, hb, hc, hd, rfl⟩, Option.bind_some, ih,
      Option.map_some]

/-- What is read as a string is one. -/
theorem exists_written_of_pieces? (h : pieces? cs = some (pieces, rest)) :
    ∃ token, cs = token ++ '"' :: rest ∧ Written token pieces := by
  fun_induction pieces? cs generalizing pieces rest with
  | case1 cs =>
    cases h
    exact ⟨[], rfl, .nil⟩
  | case2 a b c d cs ih =>
    obtain ⟨unit, hunit, hpieces⟩ := Option.bind_eq_some_iff.1 h
    obtain ⟨⟨tail, cs'⟩, htail, heq⟩ := Option.map_eq_some_iff.1 hpieces
    cases heq
    obtain ⟨token, rfl, htoken⟩ := ih htail
    obtain ⟨i, j, k, l, ha, hb, hc, hd, rfl⟩ := hex4?_eq_some_iff.1 hunit
    exact ⟨_, rfl, .hex ha hb hc hd htoken⟩
  | case3 letter cs _ ih =>
    obtain ⟨c, hc, hpieces⟩ := Option.bind_eq_some_iff.1 h
    obtain ⟨⟨tail, cs'⟩, htail, heq⟩ := Option.map_eq_some_iff.1 hpieces
    cases heq
    obtain ⟨token, rfl, htoken⟩ := ih htail
    exact ⟨_, rfl, .short (shortEscape?_eq_some_iff.1 hc) htoken⟩
  | case4 => cases h
  | case5 c cs hquote _ _ hc ih =>
    obtain ⟨⟨tail, cs'⟩, htail, heq⟩ := Option.map_eq_some_iff.1 h
    cases heq
    obtain ⟨token, rfl, htoken⟩ := ih htail
    obtain ⟨hcontrol, hbackslash⟩ := not_or.1 hc
    exact ⟨_, rfl, .byte (by omega) hquote hbackslash htoken⟩
  | case6 => cases h

/-! ### Numbers -/

/-- Digits that do not begin with a zero, or a zero alone. -/
def IsWhole (digits : List Char) : Prop :=
  IsDigits digits ∧ (digits.head? = some '0' → digits = ['0'])

/-- A point and digits, or nothing. -/
inductive IsFraction : List Char → Prop
  | none : IsFraction []
  | places {digits : List Char} (h : IsDigits digits) : IsFraction ('.' :: digits)

/-- A power of ten, perhaps with a sign, or nothing. -/
inductive IsExponent : List Char → Prop
  | none : IsExponent []
  | power {mark : Char} {sign digits : List Char} (hmark : mark = 'e' ∨ mark = 'E')
      (hsign : sign ∈ [[], ['+'], ['-']]) (h : IsDigits digits) :
    IsExponent (mark :: (sign ++ digits))

/-- A number and its value.  A negative zero counts as a decimal fraction. -/
inductive IsNumber : List Char → Raw → Prop
  | natural {digits : List Char} (h : IsWhole digits) :
    IsNumber digits (.integer (digitsNumber digits))
  | negative {digits : List Char} (h : IsWhole digits) (hzero : digits ≠ ['0']) :
    IsNumber ('-' :: digits) (.integer (-digitsNumber digits))
  | decimal {sign whole fraction exponent : List Char} (hsign : sign ∈ [[], ['-']])
      (hwhole : IsWhole whole) (hfraction : IsFraction fraction) (hexponent : IsExponent exponent)
      (hdecimal : fraction ≠ [] ∨ exponent ≠ [] ∨ (sign = ['-'] ∧ whole = ['0'])) :
    IsNumber (sign ++ whole ++ fraction ++ exponent)
      (.decimal (String.ofList (sign ++ whole ++ fraction ++ exponent)))

/-- The text does not begin with a digit. -/
def EndsDigits (rest : List Char) : Prop := ∀ c ∈ rest.head?, ¬ c.isDigit

/-- The text does not continue a number. -/
def EndsNumber (rest : List Char) : Prop :=
  ∀ c ∈ rest.head?, ¬ c.isDigit ∧ c ∉ ['.', 'e', 'E']

theorem endsNumber_nil : EndsNumber [] := fun _ hc => nomatch hc

theorem endsNumber_cons {c : Char} (h : ¬ c.isDigit ∧ c ∉ ['.', 'e', 'E']) (rest : List Char) :
    EndsNumber (c :: rest) := by
  rintro _ ⟨⟩
  exact h

theorem EndsNumber.endsDigits (h : EndsNumber rest) : EndsDigits rest := fun c hc => (h c hc).1

theorem digits1?_append (h : IsDigits digits) (hrest : EndsDigits rest) :
    digits1? (digits ++ rest) = some (digits, rest) := by
  have htake : rest.takeWhile Char.isDigit = [] := by
    cases rest with
    | nil => rfl
    | cons c rest => exact List.takeWhile_cons_of_neg (hrest c rfl)
  have hdrop : rest.dropWhile Char.isDigit = rest := by
    cases rest with
    | nil => rfl
    | cons c rest => exact List.dropWhile_cons_of_neg (hrest c rfl)
  rw [digits1?, List.takeWhile_append_of_pos h.2, List.dropWhile_append_of_pos h.2, htake, hdrop,
    List.append_nil]
  cases digits with
  | nil => exact absurd rfl h.1
  | cons c digits => rfl

theorem isDigits_of_digits1? (h : digits1? cs = some (digits, rest)) :
    cs = digits ++ rest ∧ IsDigits digits := by
  rw [digits1?] at h
  split at h
  · cases h
  · next hne =>
    cases h
    exact ⟨List.takeWhile_append_dropWhile.symm, hne, fun _ hc => List.mem_takeWhile_imp hc⟩

theorem wholePart?_append (h : IsWhole digits) (hrest : EndsDigits rest) :
    wholePart? (digits ++ rest) = some (digits, rest) := by
  unfold wholePart?
  split
  case h_1 tail heq =>
    obtain ⟨hnil, -⟩ | ⟨cs, rfl, htail⟩ := List.append_eq_cons_iff.1 heq
    · exact absurd hnil h.1.1
    · obtain rfl : cs = [] := by simpa using h.2 rfl
      rw [htail, List.nil_append]
  case h_2 => exact digits1?_append h.1 hrest

theorem isWhole_of_wholePart? (h : wholePart? cs = some (digits, rest)) :
    cs = digits ++ rest ∧ IsWhole digits := by
  unfold wholePart? at h
  split at h
  · cases h
    exact ⟨rfl, ⟨List.cons_ne_nil _ _, List.forall_mem_singleton.2 rfl⟩, fun _ => rfl⟩
  · next hzero =>
    obtain ⟨rfl, hdigits⟩ := isDigits_of_digits1? h
    refine ⟨rfl, hdigits, fun hhead => ?_⟩
    obtain ⟨tail, rfl⟩ := List.head?_eq_some_iff.1 hhead
    exact absurd rfl (hzero _)

theorem IsFraction.fraction?_append {fraction : List Char} (h : IsFraction fraction)
    (hrest : EndsDigits rest) (hpoint : '.' ∉ rest.head?) :
    fraction? (fraction ++ rest) = some (fraction, rest) := by
  cases h with
  | none =>
    unfold fraction?
    split
    · next heq =>
      obtain rfl : rest = _ := heq
      exact absurd (Option.mem_some_self '.') hpoint
    · rfl
  | places h => rw [List.cons_append, fraction?, digits1?_append h hrest, Option.map_some]

theorem isFraction_of_fraction? {fraction : List Char} (h : fraction? cs = some (fraction, rest)) :
    cs = fraction ++ rest ∧ IsFraction fraction := by
  unfold fraction? at h
  split at h
  · obtain ⟨⟨digits, tail⟩, hread, heq⟩ := Option.map_eq_some_iff.1 h
    cases heq
    obtain ⟨rfl, hdigits⟩ := isDigits_of_digits1? hread
    exact ⟨rfl, .places hdigits⟩
  · cases h
    exact ⟨rfl, .none⟩

theorem exponentSign_append {sign : List Char} (hsign : sign ∈ [[], ['+'], ['-']])
    (h : IsDigits digits) (rest : List Char) :
    exponentSign (sign ++ (digits ++ rest)) = (sign, digits ++ rest) := by
  simp only [List.mem_cons, List.not_mem_nil, or_false] at hsign
  rcases hsign with rfl | rfl | rfl
  · obtain ⟨c, digits, rfl⟩ := List.exists_cons_of_ne_nil h.1
    have hc : c.isDigit := h.2 c List.mem_cons_self
    rw [List.nil_append, List.cons_append, exponentSign]
    · rintro _ ⟨⟩
      exact absurd hc (by decide)
    · rintro _ ⟨⟩
      exact absurd hc (by decide)
  · rfl
  · rfl

theorem IsExponent.exponent?_append {exponent : List Char} (h : IsExponent exponent)
    (hrest : EndsNumber rest) : exponent? (exponent ++ rest) = some (exponent, rest) := by
  cases h with
  | none =>
    cases rest with
    | nil => rfl
    | cons c rest =>
      have hmark : ¬ (c = 'e' ∨ c = 'E') := by
        have hc := (hrest c rfl).2
        simp only [List.mem_cons, List.not_mem_nil, or_false, not_or] at hc
        exact not_or.2 hc.2
      exact if_neg hmark
  | power hmark hsign h =>
    rw [List.cons_append, List.append_assoc, exponent?, if_pos hmark,
      exponentSign_append hsign h]
    simp only [digits1?_append h hrest.endsDigits, Option.map_some]

theorem isSign_of_exponentSign {sign : List Char} (h : exponentSign cs = (sign, rest)) :
    cs = sign ++ rest ∧ sign ∈ [[], ['+'], ['-']] := by
  unfold exponentSign at h
  split at h <;> cases h <;> simp

theorem isExponent_of_exponent? {exponent : List Char} (h : exponent? cs = some (exponent, rest)) :
    cs = exponent ++ rest ∧ IsExponent exponent := by
  cases cs with
  | nil =>
    cases h
    exact ⟨rfl, .none⟩
  | cons mark cs =>
    rw [exponent?] at h
    split at h
    · next hmark =>
      obtain ⟨sign, tail, hpart⟩ : ∃ sign tail, exponentSign cs = (sign, tail) := ⟨_, _, rfl⟩
      rw [hpart] at h
      obtain ⟨⟨digits, cs'⟩, hread, heq⟩ := Option.map_eq_some_iff.1 h
      cases heq
      obtain ⟨rfl, hdigits⟩ := isDigits_of_digits1? hread
      obtain ⟨rfl, hsign⟩ := isSign_of_exponentSign hpart
      exact ⟨by rw [List.cons_append, List.append_assoc], .power hmark hsign hdigits⟩
    · cases h
      exact ⟨rfl, .none⟩

theorem numberOf_whole (negative : Bool) {whole : List Char}
    (h : ¬ (negative = true ∧ whole = ['0'])) :
    numberOf negative whole [] [] =
      .integer (if negative then -(digitsNumber whole : Int) else digitsNumber whole) := by
  rw [numberOf, if_pos ⟨rfl, rfl, h⟩, Text.digitsValue_eq_digitsNumber]

theorem numberOf_decimal {negative : Bool} {whole fraction exponent : List Char}
    (h : fraction ≠ [] ∨ exponent ≠ [] ∨ (negative = true ∧ whole = ['0'])) :
    numberOf negative whole fraction exponent = .decimal (String.ofList
      ((if negative then ['-'] else []) ++ whole ++ fraction ++ exponent)) := by
  rw [numberOf, if_neg]
  rintro ⟨hfraction, hexponent, hzero⟩
  rcases h with h | h | h
  · exact h hfraction
  · exact h hexponent
  · exact hzero h

/-- The parts of a number are read up to their end. -/
theorem readUnsigned?_append (negative : Bool) {whole fraction exponent : List Char}
    (hwhole : IsWhole whole) (hfraction : IsFraction fraction) (hexponent : IsExponent exponent)
    (hrest : EndsNumber rest) : readUnsigned? negative (whole ++ fraction ++ exponent ++ rest) =
      some (numberOf negative whole fraction exponent, rest) := by
  have hafter : EndsDigits (exponent ++ rest) ∧ '.' ∉ (exponent ++ rest).head? := by
    cases hexponent with
    | none => exact ⟨hrest.endsDigits, fun hc => (hrest _ hc).2 (by decide)⟩
    | power hmark _ _ => rcases hmark with rfl | rfl <;> simp [EndsDigits]
  have hbefore : EndsDigits (fraction ++ (exponent ++ rest)) := by
    cases hfraction with
    | none => exact hafter.1
    | places _ => simp [EndsDigits]
  simp only [List.append_assoc, readUnsigned?, wholePart?_append hwhole hbefore,
    hfraction.fraction?_append hafter.1 hafter.2, hexponent.exponent?_append hrest,
    Option.bind_eq_bind, Option.bind_some]

/-- What is read as a number without sign has the parts of one. -/
theorem exists_parts_of_readUnsigned? {negative : Bool} {raw : Raw}
    (h : readUnsigned? negative cs = some (raw, rest)) :
    ∃ whole fraction exponent, cs = whole ++ fraction ++ exponent ++ rest ∧ IsWhole whole ∧
      IsFraction fraction ∧ IsExponent exponent ∧
      raw = numberOf negative whole fraction exponent := by
  simp only [readUnsigned?, Option.bind_eq_bind, Option.bind_eq_some_iff, Option.some.injEq,
    Prod.mk.injEq, Prod.exists] at h
  obtain ⟨whole, _, hread, fraction, _, hread', exponent, _, hread'', rfl, rfl⟩ := h
  obtain ⟨rfl, hwhole⟩ := isWhole_of_wholePart? hread
  obtain ⟨rfl, hfraction⟩ := isFraction_of_fraction? hread'
  obtain ⟨rfl, hexponent⟩ := isExponent_of_exponent? hread''
  exact ⟨whole, fraction, exponent, by simp only [List.append_assoc], hwhole, hfraction, hexponent,
    rfl⟩

theorem readNumber?_of_head {c : Char} (h : c ≠ '-') (cs : List Char) :
    readNumber? (c :: cs) = readUnsigned? false (c :: cs) := by
  rw [readNumber?]
  rintro _ ⟨⟩
  exact h rfl

theorem IsWhole.exists_cons (h : IsWhole digits) : ∃ c cs, digits = c :: cs ∧ c.isDigit := by
  obtain ⟨c, cs, rfl⟩ := List.exists_cons_of_ne_nil h.1.1
  exact ⟨c, cs, rfl, h.1.2 c List.mem_cons_self⟩

/-- A number without sign is read like one. -/
theorem readNumber?_append_of_isWhole (h : IsWhole digits) (cs : List Char) :
    readNumber? (digits ++ cs) = readUnsigned? false (digits ++ cs) := by
  obtain ⟨c, tail, rfl, hc⟩ := h.exists_cons
  refine readNumber?_of_head ?_ _
  rintro rfl
  exact absurd hc (by decide)

theorem IsNumber.exists_cons {raw : Raw} (h : IsNumber cs raw) :
    ∃ c tail, cs = c :: tail ∧ (c = '-' ∨ c.isDigit) := by
  cases h with
  | natural h =>
    obtain ⟨c, tail, rfl, hc⟩ := h.exists_cons
    exact ⟨c, tail, rfl, .inr hc⟩
  | negative => exact ⟨_, _, rfl, .inl rfl⟩
  | decimal hsign hwhole _ _ _ =>
    simp only [List.mem_cons, List.not_mem_nil, or_false] at hsign
    rcases hsign with rfl | rfl
    · obtain ⟨c, tail, rfl, hc⟩ := hwhole.exists_cons
      exact ⟨c, _, rfl, .inr hc⟩
    · exact ⟨_, _, rfl, .inl rfl⟩

/-- A number is read up to its end. -/
theorem IsNumber.readNumber?_eq {raw : Raw} (h : IsNumber cs raw) (hrest : EndsNumber rest) :
    readNumber? (cs ++ rest) = some (raw, rest) := by
  cases h with
  | natural h =>
    have hread := readUnsigned?_append false h .none .none hrest
    rw [List.append_nil, List.append_nil, numberOf_whole false (by simp)] at hread
    rw [readNumber?_append_of_isWhole h]
    exact hread
  | negative h hzero =>
    have hread := readUnsigned?_append true h .none .none hrest
    rw [List.append_nil, List.append_nil, numberOf_whole true fun hboth => hzero hboth.2] at hread
    exact hread
  | @decimal sign whole fraction exponent hsign hwhole hfraction hexponent hdecimal =>
    simp only [List.mem_cons, List.not_mem_nil, or_false] at hsign
    rcases hsign with rfl | rfl
    · have hread := readUnsigned?_append false hwhole hfraction hexponent hrest
      rw [numberOf_decimal (by simpa using hdecimal)] at hread
      simp only [List.nil_append, List.append_assoc] at hread ⊢
      rw [readNumber?_append_of_isWhole hwhole]
      exact hread
    · have hread := readUnsigned?_append true hwhole hfraction hexponent hrest
      rw [numberOf_decimal (by simpa using hdecimal)] at hread
      exact hread

/-- The parts of a number and its sign make up a number. -/
theorem isNumber_numberOf (negative : Bool) {whole fraction exponent : List Char}
    (hwhole : IsWhole whole) (hfraction : IsFraction fraction) (hexponent : IsExponent exponent) :
    IsNumber ((if negative then ['-'] else []) ++ whole ++ fraction ++ exponent)
      (numberOf negative whole fraction exponent) := by
  by_cases hdecimal : fraction ≠ [] ∨ exponent ≠ [] ∨ (negative = true ∧ whole = ['0'])
  · rw [numberOf_decimal hdecimal]
    cases negative with
    | true => exact .decimal (by simp) hwhole hfraction hexponent (by simpa using hdecimal)
    | false => exact .decimal (by simp) hwhole hfraction hexponent (by simpa using hdecimal)
  · simp only [not_or, not_not] at hdecimal
    obtain ⟨rfl, rfl, hzero⟩ := hdecimal
    rw [numberOf_whole negative hzero, List.append_nil, List.append_nil]
    cases negative with
    | true => exact .negative hwhole fun heq => hzero ⟨rfl, heq⟩
    | false => exact .natural hwhole

/-- What is read as a number is one. -/
theorem exists_isNumber_of_readNumber? {raw : Raw} (h : readNumber? cs = some (raw, rest)) :
    ∃ text, cs = text ++ rest ∧ IsNumber text raw := by
  unfold readNumber? at h
  split at h <;>
    obtain ⟨whole, fraction, exponent, rfl, hwhole, hfraction, hexponent, rfl⟩ :=
      exists_parts_of_readUnsigned? h
  · exact ⟨_, by simp, isNumber_numberOf true hwhole hfraction hexponent⟩
  · exact ⟨_, by simp, isNumber_numberOf false hwhole hfraction hexponent⟩

end TorrentRemote.Json
