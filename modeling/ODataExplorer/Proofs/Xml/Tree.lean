import ODataExplorer.Xml.Tree

/-!
What is below what.

A subtree is an element and everything below it, so it holds with each of its elements the subtree
of that element.
-/

namespace ODataExplorer.Xml.Element

theorem subtree_eq (element : Element) : element.subtree = element :: element.descendants := by
  cases element
  rfl

theorem forest_eq_flatMap : ∀ siblings : List Element, forest siblings = siblings.flatMap subtree
  | [] => rfl
  | element :: rest => by rw [forest, forest_eq_flatMap rest, List.flatMap_cons]

theorem mem_subtree_self (element : Element) : element ∈ element.subtree := by
  rw [subtree_eq]
  exact List.mem_cons_self

theorem mem_subtree_of_mem_descendants {element below : Element}
    (h : below ∈ element.descendants) : below ∈ element.subtree := by
  rw [subtree_eq]
  exact List.mem_cons_of_mem element h

theorem mem_forest_of_mem {element : Element} :
    ∀ {siblings : List Element}, element ∈ siblings → element ∈ forest siblings
  | first :: rest, hmem => by
    obtain rfl | hrest := List.mem_cons.mp hmem
    · exact List.mem_append_left _ (mem_subtree_self element)
    · exact List.mem_append_right _ (mem_forest_of_mem hrest)

theorem mem_subtree_of_mem_children {element child : Element} (h : child ∈ element.children) :
    child ∈ element.subtree :=
  mem_subtree_of_mem_descendants (mem_forest_of_mem h)

mutual

/-- A subtree holds the subtrees of its elements. -/
theorem subtree_subset {element below : Element} :
    below ∈ element.subtree → below.subtree ⊆ element.subtree := by
  cases element with
  | node tag attributes children =>
    intro hmem
    obtain rfl | hbelow := List.mem_cons.mp hmem
    · exact List.Subset.refl _
    · exact List.subset_cons_of_subset _ (subtree_subset_forest hbelow)

theorem subtree_subset_forest {siblings : List Element} {below : Element} :
    below ∈ forest siblings → below.subtree ⊆ forest siblings := by
  cases siblings with
  | nil => exact nofun
  | cons element rest =>
    intro hmem
    obtain hfirst | hrest := List.mem_append.mp hmem
    · exact List.subset_append_of_subset_left _ (subtree_subset hfirst)
    · exact List.subset_append_of_subset_right _ (subtree_subset_forest hrest)

end

end ODataExplorer.Xml.Element
