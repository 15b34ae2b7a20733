/-!
# Category and tags as labels

A daemon that knows only labels keeps the category as the label `category:` followed by its name;
the other labels are the tags.
-/

namespace TorrentRemote.Labels

/-- What the label of a category begins with. -/
def categoryPrefix : String := "category:"

/-- The category that a label names, if it is the label of a category. -/
def category? (label : String) : Option String :=
  (categoryPrefix.toList.isPrefixOf? label.toList).map String.ofList

/-- The category that the first category label names, or the empty text. -/
def categoryOf (labels : List String) : String := (labels.findSome? category?).getD ""

/-- The labels that name no category. -/
def tagsOf (labels : List String) : List String :=
  labels.filter fun label => (category? label).isNone

/-- The category and the tags in a list of labels. -/
def split (labels : List String) : String × List String := (categoryOf labels, tagsOf labels)

/-- The labels for a category and tags.  An empty category and empty tags have no label. -/
def build (category : String) (tags : List String) : List String :=
  (if category = "" then [] else [categoryPrefix ++ category]) ++ tags.filter (· != "")

end TorrentRemote.Labels
