import Mathlib.Data.List.Forall2
import Mathlib.Data.List.Nodup

/-!
# Looking things up

The first thing with a name is found.  Where the names are distinct, that is the only one.  Of texts
that are known by their beginnings, the first that has the beginning is found, and what it tells is
the rest.  Nothing that would not be found can come before it, so leaving such things out makes no
difference.

## Main results

* `Lookup.find?_eq_some_iff_of_nodup` : what is found among things with distinct names.
* `Lookup.rest?_eq_some_iff`, `Lookup.rest?_eq_none_iff` : what follows a beginning.
* `Lookup.findSome?_filter_of_eq_none` : what is found when others are left out.
* `Lookup.mapM_eq_some_iff_forall₂` : what is looked up for each thing of a list.
-/

namespace TorrentRemote.Lookup

variable {α κ : Type} [BEq κ] [LawfulBEq κ] {nameOf : α → κ} {things : List α}

/-- Among things with distinct names, there is only one to be found under a name. -/
theorem find?_eq_some_iff_of_nodup (h : (things.map nameOf).Nodup) {name : κ} {thing : α} :
    (things.find? fun t => nameOf t == name) = some thing ↔
      thing ∈ things ∧ nameOf thing = name := by
  constructor
  · intro hfind
    exact ⟨List.mem_of_find?_eq_some hfind, by simpa using List.find?_some hfind⟩
  · rintro ⟨hmem, rfl⟩
    cases hfind : things.find? fun t => nameOf t == nameOf thing with
    | none => exact absurd (List.find?_eq_none.1 hfind thing hmem) (by simp)
    | some found =>
      have hsame : nameOf found = nameOf thing := by simpa using List.find?_some hfind
      rw [List.inj_on_of_nodup_map h (List.mem_of_find?_eq_some hfind) hmem hsame]

/-! ### Beginnings -/

variable {start text rest : String}

theorem rest?_eq_some_iff :
    (start.toList.isPrefixOf? text.toList).map String.ofList = some rest ↔
      text = start ++ rest := by
  rw [Option.map_eq_some_iff, ← String.toList_inj, String.toList_append]
  constructor
  · rintro ⟨cs, hcs, rfl⟩
    rw [String.toList_ofList, List.isPrefixOf?_eq_some_iff_append_eq.1 hcs]
  · intro htext
    exact ⟨rest.toList, List.isPrefixOf?_eq_some_iff_append_eq.2 htext.symm, String.ofList_toList⟩

theorem rest?_eq_none_iff :
    (start.toList.isPrefixOf? text.toList).map String.ofList = none ↔
      ¬ start.toList <+: text.toList := by
  rw [Option.map_eq_none_iff, Option.eq_none_iff_forall_ne_some]
  simp only [ne_eq, List.isPrefixOf?_eq_some_iff_append_eq]
  exact not_exists.symm

/-! ### Parts of a list -/

/-- What is left out would not have been found. -/
theorem findSome?_filter_of_eq_none {β : Type} {find? : α → Option β} {keep : α → Bool}
    (h : ∀ thing ∈ things, ¬ keep thing → find? thing = none) :
    (things.filter keep).findSome? find? = things.findSome? find? := by
  induction things with
  | nil => rfl
  | cons thing things ih =>
    rw [List.forall_mem_cons] at h
    by_cases hkeep : keep thing
    · rw [List.filter_cons_of_pos hkeep, List.findSome?_cons, List.findSome?_cons, ih h.2]
    · rw [List.filter_cons_of_neg hkeep, List.findSome?_cons, h.1 hkeep, ih h.2]

/-- What is made of each thing of a list, if something is made of each. -/
theorem mapM_eq_some_iff_forall₂ {β : Type} {f : α → Option β} {as : List α} {bs : List β} :
    as.mapM f = some bs ↔ List.Forall₂ (fun a b => f a = some b) as bs := by
  induction as generalizing bs with
  | nil => simp [eq_comm]
  | cons a as ih =>
    simp only [List.mapM_cons, Option.bind_eq_bind, Option.bind_eq_some_iff, ih,
      List.forall₂_cons_left_iff, Option.pure_def, Option.some.injEq]
    constructor
    · rintro ⟨b, hb, rest, hrest, rfl⟩
      exact ⟨b, rest, hb, hrest, rfl⟩
    · rintro ⟨b, rest, hb, hrest, rfl⟩
      exact ⟨b, hb, rest, hrest, rfl⟩

end TorrentRemote.Lookup
