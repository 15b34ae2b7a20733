import TorrentRemote.Text.Columns
import Mathlib.Data.List.Basic

/-!
# Widths of texts

The width of a text is added up from its end to its beginning, and some characters take back a
column that their right neighbours were given.  No more than that is ever taken back, so no width
is negative.  A space keeps what stands to its left apart from what stands to its right, and a text
of characters that do not change how their neighbours are drawn is as wide as its characters
together.

## Main definitions

* `Text.TailShape.advance` : the columns that may be taken back.
* `Text.IsSpacer` : a character that keeps its neighbours apart.
* `Text.IsDrawnAlone` : a character that does not change how its neighbours are drawn.

## Main results

* `Text.columnsFrom_nonneg` : no width is negative.
* `Text.columns_append_spacer` : widths on both sides of a space.
* `Text.columns_of_isDrawnAlone` : texts as wide as their characters together.
-/

namespace TorrentRemote.Text

/-! ### Sets of characters -/

/-- A character in a gap between the ranges of a set does not belong to the set. -/
theorem not_contains_of_gap {ranges : Unicode.Ranges} {low high : Nat} {c : Char}
    (hgap : ranges.all fun range => range.2 < low || high < range.1) (hlow : low ≤ c.toNat)
    (hhigh : c.toNat ≤ high) : ranges.contains c = false := by
  rw [Unicode.Ranges.contains, List.any_eq_false]
  intro range hrange
  have hrange := List.all_eq_true.1 hgap range hrange
  simp only [Bool.or_eq_true, Bool.and_eq_true, decide_eq_true_eq] at hrange ⊢
  omega

/-! ### No width is negative -/

/-- How many of the columns counted so far a character further left may take back. -/
def TailShape.advance : TailShape → Int
  | .ligature .coengLetter _ | .ligature .consonantJoiner _ => 1
  | .joinedFlag letters => letters % 2
  | _ => 0

theorem TailShape.advance_nonneg (shape : TailShape) : 0 ≤ shape.advance := by
  unfold advance
  split <;> omega

/-- A step before a tail after which no more may be taken back than was counted since. -/
def Covers (step : Int × Tail) (shape : TailShape) : Prop :=
  step.2.shape.advance ≤ step.1 + shape.advance

theorem Covers.mono {step : Int × Tail} {shape shape' : TailShape} (h : Covers step shape)
    (hle : shape.advance ≤ shape'.advance) : Covers step shape' :=
  Int.le_trans h (Int.add_le_add_left hle _)

theorem covers_of_nonneg {step : Int × Tail} {shape : TailShape}
    (hnone : step.2.shape.advance = 0) (hnonneg : 0 ≤ step.1) : Covers step shape := by
  have hshape := shape.advance_nonneg
  rw [Covers]
  omega

theorem covers_zero {tail : Tail} {shape : TailShape} (h : tail.shape = shape) :
    Covers (0, tail) shape := by
  simp only [Covers, h, Int.zero_add, Int.le_refl]

/-- The letters that may be written below a Khmer letter take a column by themselves. -/
theorem columnsOf_coengLetter {c : Char} (hlow : 0x1780 ≤ c.toNat) (hhigh : c.toNat ≤ 0x17AF) :
    columnsOf c = 1 := by
  have hzero : isZeroWidth c = false := by
    rw [isZeroWidth, not_contains_of_gap (by decide +kernel) hlow hhigh,
      not_contains_of_gap (by decide) hlow hhigh, not_contains_of_gap (by decide) hlow hhigh,
      not_contains_of_gap (by decide) hlow hhigh]
    exact Bool.and_false _
  have hhangul : c ≠ '\u115F' := by
    rintro rfl
    exact absurd hlow (by decide)
  have hsign : c ≠ '\u17D8' := by
    rintro rfl
    exact absurd hhigh (by decide)
  rw [columnsOf, if_neg (by omega), if_neg hhangul, if_neg hsign, hzero,
    not_contains_of_gap (by decide +kernel) hlow hhigh]
  rfl

theorem advance_ite_le {p : Prop} [Decidable p] {tail other : Tail} {n : Int}
    (h : p → tail.shape.advance ≤ n) (hother : ¬ p → other.shape.advance ≤ n) :
    (if p then tail else other).shape.advance ≤ n := by
  split
  · next hp => exact h hp
  · next hp => exact hother hp

theorem advance_tailOf_le (c : Char) : (tailOf c).shape.advance ≤ columnsOf c := by
  have hnone : 0 ≤ (columnsOf c : Int) := Int.natCast_nonneg _
  unfold tailOf
  refine advance_ite_le (fun _ => hnone) fun _ => ?_
  refine advance_ite_le (fun _ => hnone) fun _ => ?_
  -- Of all these tails, only that of a Khmer letter gives something in advance.
  refine advance_ite_le (fun h => ?_) fun _ => ?_
  · simp only [Bool.and_eq_true, decide_eq_true_eq] at h
    rw [columnsOf_coengLetter h.1.1 h.1.2]
    exact Int.le_refl _
  · repeat' refine advance_ite_le (fun _ => hnone) fun _ => ?_
    exact hnone

theorem covers_drawn (c : Char) (shape : TailShape) : Covers (columnsOf c, tailOf c) shape :=
  Int.le_trans (advance_tailOf_le c) (Int.le_add_of_nonneg_right shape.advance_nonneg)

theorem covers_of_ligatureStep? {c : Char} {kind : LigatureTail} {joined : Bool}
    {step : Int × Tail} (h : ligatureStep? c kind joined = some step) :
    Covers step (.ligature kind joined) := by
  unfold ligatureStep? at h
  dsimp only at h
  split at h <;> (try split_ifs at h) <;> cases h <;>
    simp [Covers, Tail.of, Tail.plain, TailShape.advance]

theorem covers_of_emojiStep? {c : Char} {shape : TailShape} {step : Int × Tail}
    (h : emojiStep? c shape = some step) : Covers step shape := by
  unfold emojiStep? at h
  dsimp only at h
  split at h <;> (try split_ifs at h) <;> cases h <;>
    simp [Covers, Tail.of, TailShape.advance] <;> omega

theorem covers_unstyledStep (c : Char) (tail : Tail) :
    Covers (unstyledStep c tail) tail.shape := by
  obtain ⟨shape, style⟩ := tail
  unfold unstyledStep
  dsimp only
  split
  · next kind joined =>
    split
    · -- A joiner does not change what a ligature gives in advance.
      have hsame : (TailShape.ligature kind true).advance =
          (TailShape.ligature kind joined).advance := by
        cases kind <;> rfl
      split <;> simp [Covers, hsame]
    · cases hstep : ligatureStep? c kind joined with
      | none => exact covers_drawn c _
      | some step => exact covers_of_ligatureStep? hstep
  · cases hstep : emojiStep? c shape with
    | none => exact covers_drawn c shape
    | some step => exact covers_of_emojiStep? hstep

theorem advance_dropRequest_le (tail : Tail) :
    tail.dropRequest.shape.advance ≤ tail.shape.advance := by
  unfold Tail.dropRequest
  split
  · exact Int.le_refl _
  · exact tail.shape.advance_nonneg

theorem covers_requestEmoji (tail : Tail) : Covers (0, tail.requestEmoji) tail.shape := by
  unfold Tail.requestEmoji
  split
  · exact covers_zero rfl
  · exact covers_of_nonneg rfl (Int.le_refl 0)

theorem covers_requestText (tail : Tail) : Covers (0, tail.requestText) tail.shape := by
  unfold Tail.requestText
  split
  · exact covers_zero rfl
  · exact covers_of_nonneg rfl (Int.le_refl 0)

/-- No step takes back more than was given in advance. -/
theorem covers_columnStep (c : Char) (tail : Tail) : Covers (columnStep c tail) tail.shape := by
  unfold columnStep
  split
  · refine covers_of_nonneg rfl ?_
    dsimp only
    split <;> decide
  · have hle : (if tail.style = .emoji then tail.dropRequest else tail).shape.advance ≤
        tail.shape.advance :=
      advance_ite_le (fun _ => advance_dropRequest_le tail) fun _ => Int.le_refl _
    refine Covers.mono ?_ hle
    generalize (if tail.style = .emoji then tail.dropRequest else tail) = tail
    dsimp only
    split
    · split
      · exact covers_of_nonneg rfl (by decide)
      · split <;> exact covers_of_nonneg rfl (by decide)
    · split
      · exact covers_drawn c _
      · split
        · exact covers_requestEmoji tail
        · split
          · exact covers_requestText tail
          · split
            · split
              · exact covers_of_nonneg rfl (by decide)
              · exact (covers_unstyledStep c _).mono (advance_dropRequest_le tail)
            · exact covers_unstyledStep c tail

theorem columnsFrom_cons (c : Char) (cs : List Char) :
    columnsFrom (c :: cs) = ((columnsFrom cs).1 + (columnStep c (columnsFrom cs).2).1,
      (columnStep c (columnsFrom cs).2).2) := rfl

/-- What may still be taken back has been counted. -/
theorem advance_columnsFrom_le (cs : List Char) :
    (columnsFrom cs).2.shape.advance ≤ (columnsFrom cs).1 := by
  induction cs with
  | nil => exact Int.le_refl _
  | cons c cs ih =>
    have hstep := covers_columnStep c (columnsFrom cs).2
    rw [Covers] at hstep
    rw [columnsFrom_cons]
    dsimp only
    omega

theorem columnsFrom_nonneg (cs : List Char) : 0 ≤ (columnsFrom cs).1 :=
  Int.le_trans (columnsFrom cs).2.shape.advance_nonneg (advance_columnsFrom_le cs)

theorem natCast_columns_ofList (cs : List Char) :
    (columns (String.ofList cs) : Int) = (columnsFrom cs).1 := by
  rw [columns, String.toList_ofList, Int.toNat_of_nonneg (columnsFrom_nonneg cs)]

/-! ### Spacers -/

/-- A character that takes one column and keeps what stands to its left apart from what stands to
its right. -/
def IsSpacer (c : Char) : Prop := ∀ tail, columnStep c tail = (1, .plain)

theorem isSpacer_of_le {c : Char} (hle : c.toNat ≤ 0xA0) (hfeed : c ≠ '\n') (hreturn : c ≠ '\r')
    (hrequest : Unicode.emojiOnRequest.contains c = false) : IsSpacer c := by
  intro tail
  rw [columnStep, hrequest, Bool.and_false, if_neg Bool.false_ne_true]
  dsimp only
  rw [if_pos hle, if_neg hfeed, if_neg]
  simp [hreturn]

theorem isSpacer_space : IsSpacer ' ' :=
  isSpacer_of_le (by decide) (by decide) (by decide) (by decide)

theorem isSpacer_dot : IsSpacer '.' :=
  isSpacer_of_le (by decide) (by decide) (by decide) (by decide)

theorem columnsFrom_append (cs : List Char) {ds : List Char} (h : (columnsFrom ds).2 = .plain) :
    columnsFrom (cs ++ ds) = ((columnsFrom cs).1 + (columnsFrom ds).1, (columnsFrom cs).2) := by
  induction cs with
  | nil => exact Prod.ext (Int.zero_add _).symm h
  | cons c cs ih =>
    rw [List.cons_append, columnsFrom_cons, ih, columnsFrom_cons]
    dsimp only
    rw [Int.add_right_comm]

/-- The widths on both sides of a spacer. -/
theorem columns_append_spacer {c : Char} (hc : IsSpacer c) (cs ds : List Char) :
    columns (String.ofList (cs ++ c :: ds)) =
      columns (String.ofList cs) + 1 + columns (String.ofList ds) := by
  have hcons : columnsFrom (c :: ds) = ((columnsFrom ds).1 + 1, .plain) := by
    rw [columnsFrom_cons, hc]
  have hint : (columns (String.ofList (cs ++ c :: ds)) : Int) =
      columns (String.ofList cs) + 1 + columns (String.ofList ds) := by
    rw [natCast_columns_ofList, natCast_columns_ofList, natCast_columns_ofList,
      columnsFrom_append cs (congrArg Prod.snd hcons), hcons]
    omega
  exact_mod_cast hint

theorem columns_append_replicate {c : Char} (hc : IsSpacer c) (cs : List Char) (n : Nat) :
    columns (String.ofList (cs ++ List.replicate n c)) = columns (String.ofList cs) + n := by
  induction n generalizing cs with
  | zero => rw [List.replicate_zero, List.append_nil, Nat.add_zero]
  | succ n ih =>
    have hspacers := ih (cs ++ [c])
    have hone := columns_append_spacer hc cs []
    rw [List.append_assoc, List.singleton_append, ← List.replicate_succ] at hspacers
    rw [hspacers, hone]
    change columns (String.ofList cs) + 1 + 0 + n = _
    omega

/-! ### Characters that are drawn alone -/

/-- A tail that only a joiner to its left makes a difference to. -/
def Tail.IsQuiet (tail : Tail) : Prop := tail = .plain ∨ tail = .of .emoji

instance (tail : Tail) : Decidable tail.IsQuiet := inferInstanceAs (Decidable (_ ∨ _))

/-- A character that does not change how its neighbours are drawn: no control character, no joiner
or request for a style, no letter for flags, no skin tone, and no right part of a ligature. -/
def IsDrawnAlone (c : Char) : Prop :=
  isControl c = false ∧ c ≠ '\u200D' ∧ (tailOf c).IsQuiet

instance (c : Char) : Decidable (IsDrawnAlone c) := inferInstanceAs (Decidable (_ ∧ _ ∧ _))

theorem charColumns_of_le {c : Char} (hcontrol : isControl c = false) (hle : c.toNat ≤ 0xA0) :
    charColumns c = 1 := by
  rw [charColumns, hcontrol, if_neg Bool.false_ne_true]
  rcases Nat.lt_or_eq_of_le hle with hlt | heq
  · rw [columnsOf, if_pos hlt]
  · obtain rfl : c = '\u00A0' := Char.toNat_inj.1 heq
    decide +kernel

theorem unstyledStep_of_isQuiet {c : Char} {tail : Tail} (hjoiner : c ≠ '\u200D')
    (htail : tail.IsQuiet) : unstyledStep c tail = ((columnsOf c : Int), tailOf c) := by
  have hcode : c.toNat ≠ 0x200D := fun h => hjoiner (Char.toNat_inj.1 h)
  rcases htail with rfl | rfl
  · rfl
  · simp [unstyledStep, Tail.of, emojiStep?, hcode]

/-- Before a quiet tail, a character that is drawn alone takes its own columns, and its tail is
quiet again. -/
theorem columnStep_of_isDrawnAlone {c : Char} {tail : Tail} (hc : IsDrawnAlone c)
    (htail : tail.IsQuiet) :
    (columnStep c tail).1 = charColumns c ∧ (columnStep c tail).2.IsQuiet := by
  obtain ⟨hcontrol, hjoiner, hquiet⟩ := hc
  have hstyle : tail.style = .unset := by
    rcases htail with rfl | rfl <;> rfl
  have hemoji : c ≠ '\uFE0F' := by
    rintro rfl
    exact absurd hquiet (by decide)
  have htext : c ≠ '\uFE0E' := by
    rintro rfl
    exact absurd hquiet (by decide)
  have hfeed : c ≠ '\n' := by
    rintro rfl
    exact absurd hcontrol (by decide)
  have hreturn : c ≠ '\r' := by
    rintro rfl
    exact absurd hcontrol (by decide)
  by_cases hle : c.toNat ≤ 0xA0
  · rw [charColumns_of_le hcontrol hle]
    simp [columnStep, hstyle, hle, hfeed, hreturn, Tail.IsQuiet]
  · have hdrawn : columnStep c tail = ((columnsOf c : Int), tailOf c) := by
      simp [columnStep, hstyle, hle, hemoji, htext, unstyledStep_of_isQuiet hjoiner htail]
    rw [hdrawn, charColumns, hcontrol, if_neg Bool.false_ne_true]
    exact ⟨rfl, hquiet⟩

/-- A text of characters that are drawn alone is as wide as its characters together. -/
theorem columnsFrom_of_isDrawnAlone {cs : List Char} (h : ∀ c ∈ cs, IsDrawnAlone c) :
    (columnsFrom cs).1 = cs.foldr (fun c columns => charColumns c + columns) 0 ∧
      (columnsFrom cs).2.IsQuiet := by
  induction cs with
  | nil => exact ⟨rfl, .inl rfl⟩
  | cons c cs ih =>
    obtain ⟨hsum, hquiet⟩ := ih fun d hd => h d (List.mem_cons_of_mem c hd)
    obtain ⟨hstep, hquiet⟩ := columnStep_of_isDrawnAlone (h c List.mem_cons_self) hquiet
    rw [columnsFrom_cons]
    refine ⟨?_, hquiet⟩
    dsimp only
    rw [hsum, hstep, List.foldr_cons]
    push_cast
    omega

theorem columns_of_isDrawnAlone {cs : List Char} (h : ∀ c ∈ cs, IsDrawnAlone c) :
    columns (String.ofList cs) = cs.foldr (fun c columns => charColumns c + columns) 0 := by
  exact_mod_cast (natCast_columns_ofList cs).trans (columnsFrom_of_isDrawnAlone h).1

example : IsDrawnAlone '映' ∧ IsDrawnAlone '\u0301' ∧ IsDrawnAlone '🎬' ∧
    ¬ IsDrawnAlone '\t' ∧ ¬ IsDrawnAlone '\u200D' := by decide +kernel

end TorrentRemote.Text
