import TorrentRemote.Text.Lowercase
import Mathlib.Data.List.TakeWhile

/-!
# Lower case in a context

The lower case of a text inside a longer one.  Only a capital sigma looks at what surrounds it, and
it looks no further than to the next character that is not case-ignorable on either side.  So the
lower case of a text is the same in every context, unless it holds a sigma with nothing but
case-ignorable characters on one side and nothing on the other that would settle what it becomes.

## Main definitions

* `Text.lowerBetween` : the lower case of a text between two others.
* `Text.HasOpenSigma` : a text whose lower case depends on its context.

## Main results

* `Text.lowerFrom_append` : the lower case of a text in parts.
* `Text.lowerBetween_eq_lowerFrom` : a text whose lower case is the same in every context.
* `Text.exists_not_infix_of_hasOpenSigma` : all other texts are lost in some context.
-/

namespace TorrentRemote.Text

open Unicode (caseIgnorable cased)

/-! ### What a sigma sees -/

/-- Nothing but case-ignorable characters. -/
def IsIgnored (cs : List Char) : Prop := ∀ c ∈ cs, caseIgnorable.contains c

variable {left right before before' after after' cs : List Char}

theorem startsCased_append_of_isIgnored (h : IsIgnored cs) (after : List Char) :
    startsCased (cs ++ after) = startsCased after := by
  rw [startsCased, List.dropWhile_append_of_pos h, ← startsCased]

theorem startsCased_append_of_not_isIgnored (h : ¬ IsIgnored cs) (after : List Char) :
    startsCased (cs ++ after) = startsCased cs := by
  cases hdrop : cs.dropWhile caseIgnorable.contains with
  | nil => exact absurd (List.dropWhile_eq_nil_iff.1 hdrop) h
  | cons c rest => simp [startsCased, List.dropWhile_append, hdrop]

theorem startsCased_of_isIgnored (h : IsIgnored cs) : startsCased cs = false := by
  rw [← List.append_nil cs, startsCased_append_of_isIgnored h]
  rfl

theorem not_isIgnored_of_mem_sigma (h : 'Σ' ∈ cs) : ¬ IsIgnored cs :=
  fun hignored => absurd (hignored 'Σ' h) (by decide +kernel)

/-- Nothing is seen beyond a capital sigma. -/
theorem startsCased_append_sigma (cs after : List Char) :
    startsCased (cs ++ 'Σ' :: after) = startsCased (cs ++ ['Σ']) := by
  rw [List.append_cons, startsCased_append_of_not_isIgnored (not_isIgnored_of_mem_sigma (by simp))]

theorem isIgnored_reverse : IsIgnored cs.reverse ↔ IsIgnored cs := by
  simp only [IsIgnored, List.mem_reverse]

/-! ### Parts of a text -/

/-- The lower case of a text between the reversed text before it and the text after it. -/
def lowerBetween (before : List Char) : List Char → List Char → List Char
  | [], _ => []
  | c :: cs, after => lowerAt before c (cs ++ after) ++ lowerBetween (c :: before) cs after

theorem lowerFrom_append (before cs after : List Char) :
    lowerFrom before (cs ++ after) =
      lowerBetween before cs after ++ lowerFrom (cs.reverse ++ before) after := by
  induction cs generalizing before with
  | nil => rfl
  | cons c cs ih =>
    rw [List.cons_append, lowerFrom, ih, lowerBetween, List.append_assoc, List.reverse_cons,
      List.append_assoc, List.singleton_append]

theorem lowerFrom_eq_lowerBetween (before cs : List Char) :
    lowerFrom before cs = lowerBetween before cs [] := by
  have happend := lowerFrom_append before cs []
  rwa [List.append_nil, lowerFrom, List.append_nil] at happend

theorem lowerAt_of_ne {c : Char} (h : c ≠ 'Σ') (before after before' after' : List Char) :
    lowerAt before c after = lowerAt before' c after' := by
  unfold lowerAt
  split
  · exact absurd rfl h
  · rfl
  · rfl

theorem lowerAt_sigma (before after : List Char) : lowerAt before 'Σ' after =
    [if startsCased before && !startsCased after then 'ς' else 'σ'] := by
  rw [lowerAt]
  split <;> rfl

/-- The lower case of a text is the same in two contexts if each of its sigmas becomes the same. -/
theorem lowerBetween_congr
    (h : ∀ left right, cs = left ++ 'Σ' :: right →
      lowerAt (left.reverse ++ before) 'Σ' (right ++ after) =
        lowerAt (left.reverse ++ before') 'Σ' (right ++ after')) :
    lowerBetween before cs after = lowerBetween before' cs after' := by
  induction cs generalizing before before' with
  | nil => rfl
  | cons c cs ih =>
    have hfirst : lowerAt before c (cs ++ after) = lowerAt before' c (cs ++ after') := by
      by_cases hc : c = 'Σ'
      · subst hc
        exact h [] cs rfl
      · exact lowerAt_of_ne hc ..
    rw [lowerBetween, hfirst, ih, lowerBetween]
    rintro left right rfl
    simpa using h (c :: left) right rfl

theorem lowerBetween_of_isIgnored (h : IsIgnored cs) :
    lowerBetween before cs after = lowerBetween before' cs after' := by
  refine lowerBetween_congr ?_
  rintro left right rfl
  exact absurd h (not_isIgnored_of_mem_sigma (by simp))

/-- The parts of a text on both sides of a sigma do not see beyond it. -/
theorem lowerBetween_sigma (before left right after : List Char) :
    lowerBetween before (left ++ 'Σ' :: right) after =
      lowerBetween before left ['Σ'] ++ (lowerAt (left.reverse ++ before) 'Σ' (right ++ after) ++
        lowerBetween ['Σ'] right after) := by
  induction left generalizing before with
  | nil =>
    have hright : lowerBetween ('Σ' :: before) right after = lowerBetween ['Σ'] right after := by
      refine lowerBetween_congr fun left' right' _ => ?_
      rw [lowerAt_sigma, lowerAt_sigma, startsCased_append_sigma]
    rw [List.nil_append, lowerBetween, lowerBetween, hright]
    rfl
  | cons c left ih =>
    have hfirst : lowerAt before c (left ++ 'Σ' :: right ++ after) =
        lowerAt before c (left ++ ['Σ']) := by
      by_cases hc : c = 'Σ'
      · subst hc
        rw [lowerAt_sigma, lowerAt_sigma, List.append_assoc, List.cons_append,
          startsCased_append_sigma]
      · exact lowerAt_of_ne hc ..
    rw [List.cons_append, lowerBetween, hfirst, ih, lowerBetween, List.append_assoc,
      List.reverse_cons, List.append_assoc, List.singleton_append]

/-! ### Open sigmas -/

/-- A capital sigma that has nothing but case-ignorable characters on one side, while the other side
leaves open whether it is the last letter of a word. -/
def HasOpenSigma (cs : List Char) : Prop :=
  ∃ left right, cs = left ++ 'Σ' :: right ∧
    (IsIgnored left ∧ startsCased right = false ∨ startsCased left.reverse ∧ IsIgnored right)

theorem lowerAt_sigma_of_settled
    (h : ¬ (IsIgnored left ∧ startsCased right = false ∨
      startsCased left.reverse ∧ IsIgnored right)) (before after : List Char) :
    lowerAt (left.reverse ++ before) 'Σ' (right ++ after) =
      lowerAt left.reverse 'Σ' right := by
  obtain ⟨hleft, hright⟩ := not_or.1 h
  rw [lowerAt_sigma, lowerAt_sigma]
  by_cases hignored : IsIgnored left
  · -- A cased letter follows in the text, so this is no last letter of a word.
    have hcased : startsCased right = true := by simpa using not_and.1 hleft hignored
    have hopen : ¬ IsIgnored right := fun hright => by
      rw [startsCased_of_isIgnored hright] at hcased
      cases hcased
    simp [startsCased_append_of_not_isIgnored hopen, hcased]
  · rw [startsCased_append_of_not_isIgnored (mt isIgnored_reverse.1 hignored)]
    cases hcased : startsCased left.reverse with
    | false => rfl
    | true =>
      rw [startsCased_append_of_not_isIgnored (not_and.1 hright hcased)]

/-- The lower case of a text without an open sigma is the same in every context. -/
theorem lowerBetween_eq_lowerFrom (h : ¬ HasOpenSigma cs) (before after : List Char) :
    lowerBetween before cs after = lowerFrom [] cs := by
  rw [lowerFrom_eq_lowerBetween]
  refine lowerBetween_congr fun left right hcs => ?_
  have hsettled := fun hopen => h ⟨left, right, hcs, hopen⟩
  rw [lowerAt_sigma_of_settled hsettled, lowerAt_sigma_of_settled hsettled]

/-- The lower case of a text without an open sigma is found wherever the text is. -/
theorem lowerFrom_isInfix (h : ¬ HasOpenSigma cs) {text : List Char} (hin : cs <:+: text) :
    lowerFrom [] cs <:+: lowerFrom [] text := by
  obtain ⟨before, after, rfl⟩ := hin
  rw [List.append_assoc, lowerFrom_append, lowerFrom_append, lowerBetween_eq_lowerFrom h]
  exact ⟨_, _, List.append_assoc ..⟩

theorem lowerAt_alpha (before after : List Char) : lowerAt before 'α' after = ['α'] := by
  have halpha : lowerChar 'α' = 'α' := by decide +kernel
  rw [← halpha]
  rfl

/-- A capital sigma as the last letter of a word. -/
theorem lowerAt_sigma_last (hbefore : startsCased before = true)
    (hafter : startsCased after = false) : lowerAt before 'Σ' after = ['ς'] := by
  rw [lowerAt_sigma, hbefore, hafter]
  rfl

/-- A capital sigma before which no word begins. -/
theorem lowerAt_sigma_first (hbefore : startsCased before = false) :
    lowerAt before 'Σ' after = ['σ'] := by
  rw [lowerAt_sigma, hbefore]
  rfl

/-- A capital sigma after which a word goes on. -/
theorem lowerAt_sigma_inner (hafter : startsCased after = true) :
    lowerAt before 'Σ' after = ['σ'] := by
  rw [lowerAt_sigma, hafter, Bool.not_true, Bool.and_false]
  rfl

/-- A text is not found where one of its sigmas becomes another letter than in the text alone, if
nothing around it makes up for that letter. -/
theorem not_isInfix_of_sigma {outer : List Char} {a b : Char}
    (hown : lowerAt (left.reverse ++ []) 'Σ' (right ++ []) = [a])
    (hother : lowerAt (left.reverse ++ outer.reverse) 'Σ' (right ++ after) = [b]) (hne : a ≠ b)
    (hleft : lowerBetween outer.reverse left ['Σ'] = lowerBetween [] left ['Σ'])
    (hright : lowerBetween ['Σ'] right after = lowerBetween ['Σ'] right [])
    (houter : ∀ rest, a ∉ lowerBetween [] outer rest)
    (hafter : ∀ before, a ∉ lowerFrom before after) :
    ¬ lowerFrom [] (left ++ 'Σ' :: right) <:+:
      lowerFrom [] (outer ++ (left ++ 'Σ' :: right ++ after)) := by
  intro hin
  have hone : [a].count a = 1 := List.count_singleton_self
  have hnone : [b].count a = 0 := List.count_eq_zero_of_not_mem (mt List.mem_singleton.1 hne)
  have hpart : lowerFrom [] (left ++ 'Σ' :: right) =
      lowerBetween [] left ['Σ'] ++ ([a] ++ lowerBetween ['Σ'] right []) := by
    rw [lowerFrom_eq_lowerBetween, lowerBetween_sigma, hown]
  have hwhole : lowerFrom [] (outer ++ (left ++ 'Σ' :: right ++ after)) =
      lowerBetween [] outer (left ++ 'Σ' :: right ++ after) ++
        (lowerBetween [] left ['Σ'] ++ ([b] ++ lowerBetween ['Σ'] right []) ++
          lowerFrom ((left ++ 'Σ' :: right).reverse ++ outer.reverse) after) := by
    rw [lowerFrom_append, lowerFrom_append, List.append_nil, lowerBetween_sigma, hother, hleft,
      hright]
  -- The whole has fewer of the letter than the part.
  have hcount := hin.count_le a
  rw [hpart, hwhole] at hcount
  simp only [List.count_append, hone, hnone, List.count_eq_zero_of_not_mem (houter _),
    List.count_eq_zero_of_not_mem (hafter _)] at hcount
  omega

/-- The lower case of a text with an open sigma is not found in every text that holds it. -/
theorem exists_not_infix_of_hasOpenSigma (h : HasOpenSigma cs) :
    ∃ text, cs <:+: text ∧ ¬ lowerFrom [] cs <:+: lowerFrom [] text := by
  have halpha : startsCased ['α'] = true := by decide +kernel
  obtain ⟨left, right, rfl, ⟨hleft, hright⟩ | ⟨hleft, hright⟩⟩ := h
  · -- A letter in front makes the sigma the last letter of a word.
    refine ⟨['α'] ++ (left ++ 'Σ' :: right ++ []), ⟨['α'], [], List.append_assoc ..⟩,
      not_isInfix_of_sigma (lowerAt_sigma_first ?_) (lowerAt_sigma_last ?_ ?_) (by decide)
        (lowerBetween_of_isIgnored hleft) rfl (fun rest => ?_) fun _ => List.not_mem_nil⟩
    · rw [List.append_nil, startsCased_of_isIgnored (isIgnored_reverse.2 hleft)]
    · rw [startsCased_append_of_isIgnored (isIgnored_reverse.2 hleft)]
      exact halpha
    · rwa [List.append_nil]
    · rw [lowerBetween, lowerAt_alpha, lowerBetween]
      decide
  · -- A letter behind keeps the sigma from being the last letter of a word.
    refine ⟨[] ++ (left ++ 'Σ' :: right ++ ['α']), ⟨[], ['α'], rfl⟩,
      not_isInfix_of_sigma (lowerAt_sigma_last ?_ ?_) (lowerAt_sigma_inner ?_) (by decide) rfl
        (lowerBetween_of_isIgnored hright) (fun _ => List.not_mem_nil) fun before => ?_⟩
    · rwa [List.append_nil]
    · rw [List.append_nil, startsCased_of_isIgnored hright]
    · rw [startsCased_append_of_isIgnored hright, halpha]
    · rw [lowerFrom, lowerAt_alpha, lowerFrom]
      decide

end TorrentRemote.Text
