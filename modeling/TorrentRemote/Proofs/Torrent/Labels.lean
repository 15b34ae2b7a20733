import TorrentRemote.Torrent.Labels
import TorrentRemote.Proofs.Lookup
import Mathlib.Data.List.Basic

/-!
# Category and tags from labels

The labels that are built for a category and tags are those of this category and these tags, without
the empty tags, as long as no tag looks like the label of a category.

## Main definitions

* `Labels.IsTag` : a label that does not name a category.

## Main results

* `Labels.categoryOf_build`, `Labels.tagsOf_build` : category and tags are found again.
-/

namespace TorrentRemote.Labels

/-- A label that does not begin like the label of a category. -/
def IsTag (label : String) : Prop := ¬ categoryPrefix.toList <+: label.toList

instance (label : String) : Decidable (IsTag label) := inferInstanceAs (Decidable (¬ _))

theorem category?_eq_none_iff {label : String} : category? label = none ↔ IsTag label :=
  Lookup.rest?_eq_none_iff

theorem category?_eq_some_iff {label category : String} :
    category? label = some category ↔ label = categoryPrefix ++ category :=
  Lookup.rest?_eq_some_iff

theorem category?_append (category : String) :
    category? (categoryPrefix ++ category) = some category :=
  category?_eq_some_iff.2 rfl

theorem mem_tagsOf {labels : List String} {label : String} :
    label ∈ tagsOf labels ↔ label ∈ labels ∧ IsTag label := by
  rw [tagsOf, List.mem_filter, Option.isNone_iff_eq_none, category?_eq_none_iff]

theorem tagsOf_eq_self {tags : List String} (h : ∀ tag ∈ tags, IsTag tag) : tagsOf tags = tags := by
  rw [tagsOf, List.filter_eq_self]
  exact fun tag htag => Option.isNone_iff_eq_none.2 (category?_eq_none_iff.2 (h tag htag))

theorem categoryOf_eq_empty {tags : List String} (h : ∀ tag ∈ tags, IsTag tag) :
    categoryOf tags = "" := by
  have hnone : tags.findSome? category? = none :=
    List.findSome?_eq_none_iff.2 fun tag htag => category?_eq_none_iff.2 (h tag htag)
  rw [categoryOf, hnone, Option.getD_none]

theorem isTag_of_mem_filter {tags : List String} (h : ∀ tag ∈ tags, IsTag tag) :
    ∀ tag ∈ tags.filter (· != ""), IsTag tag :=
  fun tag htag => h tag (List.mem_of_mem_filter htag)

/-- A category that is not empty is found again, whatever the tags are. -/
theorem categoryOf_build_of_ne {category : String} (h : category ≠ "") (tags : List String) :
    categoryOf (build category tags) = category := by
  rw [build, if_neg h, List.singleton_append, categoryOf, List.findSome?_cons, category?_append]
  rfl

/-- The category is found again. -/
theorem categoryOf_build (category : String) {tags : List String} (h : ∀ tag ∈ tags, IsTag tag) :
    categoryOf (build category tags) = category := by
  by_cases hempty : category = ""
  · rw [build, if_pos hempty, List.nil_append, categoryOf_eq_empty (isTag_of_mem_filter h), hempty]
  · exact categoryOf_build_of_ne hempty tags

/-- Empty tags make no difference. -/
theorem build_filter (category : String) (tags : List String) :
    build category (tags.filter (· != "")) = build category tags := by
  rw [build, List.filter_filter, build]
  simp only [Bool.and_self]

/-- The labels that are found as tags are those of the given tags that are neither empty nor the
label of a category. -/
theorem tagsOf_build_eq (category : String) (tags : List String) :
    tagsOf (build category tags) = tagsOf (tags.filter (· != "")) := by
  by_cases hempty : category = ""
  · rw [build, if_pos hempty, List.nil_append]
  · rw [build, if_neg hempty, List.singleton_append, tagsOf,
      List.filter_cons_of_neg (by simp [category?_append]), tagsOf]

/-- The tags that are not empty are found again. -/
theorem tagsOf_build (category : String) {tags : List String} (h : ∀ tag ∈ tags, IsTag tag) :
    tagsOf (build category tags) = tags.filter (· != "") := by
  rw [tagsOf_build_eq, tagsOf_eq_self (isTag_of_mem_filter h)]

theorem filter_tagsOf (tags : List String) :
    (tagsOf tags).filter (· != "") = tagsOf (tags.filter (· != "")) := by
  rw [tagsOf, tagsOf, List.filter_filter, List.filter_filter]
  simp only [Bool.and_comm]

end TorrentRemote.Labels
