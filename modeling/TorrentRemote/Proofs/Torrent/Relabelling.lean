import TorrentRemote.Proofs.Torrent.Labels

/-!
# Labels taken apart and put together

Which category and which tags come out of labels that were built, for any category and any tags, and
what becomes of any labels that are taken apart and built again.  A tag that looks like the label of
a category is not found as a tag; if no category is given, the first of these tags is taken for it.

## Main definitions

* `Labels.HasCategory` : the category that some labels have.
* `Labels.rebuilt` : labels taken apart and built again.

## Main results

* `Labels.hasCategory_iff` : the category that is found is the one that the labels have.
* `Labels.split_build`, `Labels.split_rebuilt` : what is found in labels that were built.
* `Labels.category_and_tags_found_again` : all of this together, and which tags get through.
-/

namespace TorrentRemote.Labels

variable {labels tags : List String} {category : String}

/-! ### The category of labels -/

/-- The category that some labels have: what follows `category:` in the first label that begins so,
even if nothing follows. -/
inductive HasCategory : List String → String → Prop
  | empty {labels : List String} (htags : ∀ label ∈ labels, IsTag label) : HasCategory labels ""
  | first (before : List String) (category : String) (after : List String)
      (hbefore : ∀ label ∈ before, IsTag label) :
      HasCategory (before ++ (categoryPrefix ++ category) :: after) category

theorem hasCategory_iff : HasCategory labels category ↔ categoryOf labels = category := by
  constructor
  · rintro (htags | ⟨before, _, after, hbefore⟩)
    · exact categoryOf_eq_empty htags
    · have hnone : before.findSome? category? = none :=
        List.findSome?_eq_none_iff.2 fun label hlabel =>
          category?_eq_none_iff.2 (hbefore label hlabel)
      rw [categoryOf, List.findSome?_append, hnone, Option.none_or, List.findSome?_cons,
        category?_append]
      rfl
  · intro h
    cases hfound : labels.findSome? category? with
    | none =>
      rw [categoryOf, hfound, Option.getD_none] at h
      rw [← h]
      exact .empty fun label hlabel =>
        category?_eq_none_iff.1 (List.findSome?_eq_none_iff.1 hfound label hlabel)
    | some found =>
      rw [categoryOf, hfound, Option.getD_some] at h
      obtain ⟨before, label, after, rfl, hlabel, hbefore⟩ := List.findSome?_eq_some_iff.1 hfound
      rw [category?_eq_some_iff] at hlabel
      rw [← h, hlabel]
      exact .first before found after fun label hmem =>
        category?_eq_none_iff.1 (hbefore label hmem)

/-- Empty labels have no category, so leaving them out makes no difference. -/
theorem categoryOf_filter (labels : List String) :
    categoryOf (labels.filter (· != "")) = categoryOf labels := by
  have hempty : category? "" = none := category?_eq_none_iff.2 (by decide)
  rw [categoryOf, categoryOf, Lookup.findSome?_filter_of_eq_none]
  rintro label - hlabel
  rwa [show label = "" by simpa using hlabel]

/-- Without a category, what is found is the category that the tags look to have. -/
theorem categoryOf_build_empty (tags : List String) :
    categoryOf (build "" tags) = categoryOf tags := by
  rw [build, if_pos rfl, List.nil_append, categoryOf_filter]

/-! ### Tags -/

theorem tagsOf_eq_filter (labels : List String) :
    tagsOf labels = labels.filter fun label => IsTag label := by
  refine List.filter_congr fun label _ => ?_
  rw [Bool.eq_iff_iff, Option.isNone_iff_eq_none, category?_eq_none_iff, decide_eq_true_eq]

theorem filter_tagsOf_eq_filter (labels : List String) :
    (tagsOf labels).filter (· != "") = labels.filter fun label => label ≠ "" ∧ IsTag label := by
  rw [tagsOf_eq_filter, List.filter_filter]
  refine List.filter_congr fun label _ => ?_
  rw [Bool.eq_iff_iff]
  simp

/-- What is found in labels that were built. -/
theorem split_build (category : String) (tags : List String) :
    split (build category tags) =
      (if category = "" then categoryOf tags else category,
        tags.filter fun tag => tag ≠ "" ∧ IsTag tag) := by
  have htags : tagsOf (build category tags) = tags.filter fun tag => tag ≠ "" ∧ IsTag tag := by
    rw [tagsOf_build_eq, ← filter_tagsOf, filter_tagsOf_eq_filter]
  rw [split, htags]
  split
  · next hempty => rw [hempty, categoryOf_build_empty]
  · next hne => rw [categoryOf_build_of_ne hne]

theorem split_build_eq_iff : split (build category tags) = (category, tags) ↔
    ∀ tag ∈ tags, tag ≠ "" ∧ IsTag tag := by
  rw [split_build, Prod.mk.injEq, List.filter_eq_self]
  simp only [decide_eq_true_eq, and_iff_right_iff_imp]
  intro h
  split
  · next hempty => rw [categoryOf_eq_empty fun tag htag => (h tag htag).2, hempty]
  · rfl

/-! ### Labels built again -/

/-- Labels taken apart and built again. -/
def rebuilt (labels : List String) : List String := build (split labels).1 (split labels).2

theorem split_rebuilt (labels : List String) : split (rebuilt labels) =
    (categoryOf labels, labels.filter fun label => label ≠ "" ∧ IsTag label) := by
  have htags : ∀ tag ∈ tagsOf labels, IsTag tag := fun tag htag => (mem_tagsOf.1 htag).2
  rw [split, rebuilt, split, categoryOf_build _ htags, tagsOf_build _ htags,
    filter_tagsOf_eq_filter]

theorem rebuilt_rebuilt (labels : List String) : rebuilt (rebuilt labels) = rebuilt labels := by
  rw [rebuilt, split_rebuilt, ← filter_tagsOf_eq_filter, build_filter]
  rfl

/-- **Category and tags as labels.**  In the labels that are built for a category and tags, the
tags are found in their order, without those that are empty or begin with `category:`.  The category
is found if it is not empty, whatever it holds; otherwise that of the tags is found, which is empty
if none of them begins with `category:`.  So both are found as they were given exactly if every tag
is found.  Building any labels again keeps their category and their tags that are not empty, in
their order, and doing it twice is doing it once. -/
theorem category_and_tags_found_again :
    (∀ (category : String) (tags : List String),
      (∃ found, split (build category tags) =
          (found, tags.filter fun tag => tag ≠ "" ∧ IsTag tag) ∧
        (category ≠ "" → found = category) ∧ (category = "" → HasCategory tags found)) ∧
      (split (build category tags) = (category, tags) ↔ ∀ tag ∈ tags, tag ≠ "" ∧ IsTag tag)) ∧
    ∀ labels : List String, rebuilt (rebuilt labels) = rebuilt labels ∧
      ∃ category, HasCategory labels category ∧
        split labels = (category, labels.filter fun label => IsTag label) ∧
        split (rebuilt labels) =
          (category, labels.filter fun label => label ≠ "" ∧ IsTag label) := by
  refine ⟨fun category tags => ⟨⟨_, split_build category tags, fun hne => if_neg hne,
    fun hempty => ?_⟩, split_build_eq_iff⟩,
    fun labels => ⟨rebuilt_rebuilt labels, categoryOf labels, ?_, ?_, split_rebuilt labels⟩⟩
  · rw [if_pos hempty]
    exact hasCategory_iff.2 rfl
  · exact hasCategory_iff.2 rfl
  · rw [split, tagsOf_eq_filter]

/-- A tag is taken for the category that was not given.  An empty category label that comes first
hides another one, which is lost with the empty tag. -/
theorem category_and_tags_found_again_films :
    split (build "" ["hd", "", "category:films"]) = ("films", ["hd"]) ∧
    split (rebuilt ["hd", "category:", "", "category:films", "new"]) = ("", ["hd", "new"]) := by
  obtain ⟨hbuilt, hrebuilt⟩ := category_and_tags_found_again
  obtain ⟨⟨found, hsplit, -, hfound⟩, -⟩ := hbuilt "" ["hd", "", "category:films"]
  obtain ⟨-, category, hcategory, -, hsplit'⟩ :=
    hrebuilt ["hd", "category:", "", "category:films", "new"]
  rw [hsplit, hsplit', ← hasCategory_iff.1 (hfound rfl), ← hasCategory_iff.1 hcategory]
  decide +kernel

end TorrentRemote.Labels
