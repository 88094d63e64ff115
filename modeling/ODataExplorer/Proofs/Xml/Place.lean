import ODataExplorer.Proofs.Xml.Tree

/-!
Places in document order.

A subtree lists its elements in document order, and the subtree of any of them is a stretch of the
list. The places below a place therefore have the indexes of an interval, and of two places in a
document either one is below the other or their intervals are apart.

Main statement: places that are in order, with none below another, stay in order when each of them
is replaced by places below it that are in order themselves (`Place.inOrder_flatMap`).
-/

namespace ODataExplorer.Xml

namespace Element

mutual

theorem length_subtree (element : Element) : element.subtree.length = element.size := by
  cases element with
  | node tag attributes children => rw [subtree, size, List.length_cons, length_forest children]

theorem length_forest (siblings : List Element) :
    (forest siblings).length = forestSize siblings := by
  cases siblings with
  | nil => rfl
  | cons element rest =>
    rw [forest, forestSize, List.length_append, length_subtree element, length_forest rest]

end

theorem size_pos (element : Element) : 0 < element.size := by
  cases element
  exact Nat.succ_pos _

mutual

/-- The subtree of an element of a subtree is the stretch of it that starts at the element. -/
theorem subtree_prefix_drop {element below : Element} {i : Nat}
    (h : element.subtree[i]? = some below) : below.subtree <+: element.subtree.drop i := by
  cases element with
  | node tag attributes children =>
    cases i with
    | zero =>
      cases h
      exact List.prefix_refl _
    | succ i => exact subtree_prefix_drop_forest h

theorem subtree_prefix_drop_forest {siblings : List Element} {below : Element} {i : Nat}
    (h : (forest siblings)[i]? = some below) : below.subtree <+: (forest siblings).drop i := by
  cases siblings with
  | nil => cases h
  | cons element rest =>
    rw [forest] at h ⊢
    by_cases hi : i < element.subtree.length
    · rw [List.getElem?_append_left hi] at h
      rw [List.drop_append_of_le_length (Nat.le_of_lt hi)]
      exact (subtree_prefix_drop h).trans (List.prefix_append _ _)
    · have hle := Nat.le_of_not_lt hi
      rw [List.getElem?_append_right hle] at h
      rw [List.drop_append, List.drop_eq_nil_of_le hle, List.nil_append]
      exact subtree_prefix_drop_forest h

end

/-- An element is found in a subtree where its distance from an element above it says. -/
theorem getElem?_subtree_add {element below : Element} {i j : Nat}
    (h : element.subtree[i]? = some below) (hj : j < below.size) :
    element.subtree[i + j]? = below.subtree[j]? := by
  rw [← length_subtree] at hj
  obtain ⟨after, hafter⟩ := subtree_prefix_drop h
  rw [← List.getElem?_drop, ← hafter, List.getElem?_append_left hj]

end Element

namespace Place

/-! ## Below a place -/

/-- What is below a place is in its subtree, as far behind the place as the indexes say. -/
theorem mem_descendants_iff {place below : Place} :
    below ∈ place.descendants ↔
      ∃ i, place.element.subtree[i + 1]? = some below.element ∧
        below.index = place.index + (i + 1) := by
  rw [descendants, List.mem_iff_getElem?]
  refine exists_congr fun i => ?_
  rw [List.getElem?_mapIdx, Element.subtree_eq, List.getElem?_cons_succ, Option.map_eq_some_iff]
  constructor
  · rintro ⟨element, helement, rfl⟩
    exact ⟨helement, by rw [Nat.add_assoc, Nat.add_comm 1 i]⟩
  · rintro ⟨helement, hindex⟩
    refine ⟨below.element, helement, ?_⟩
    rw [Nat.add_assoc, Nat.add_comm 1 i, ← hindex]

theorem map_element_descendants (place : Place) :
    place.descendants.map (·.element) = place.element.descendants := by
  refine List.ext_getElem? fun i => ?_
  rw [descendants, List.getElem?_map, List.getElem?_mapIdx, Option.map_map]
  exact Option.map_id'

/-- What is below a place has a greater index, but none beyond the subtree. -/
theorem index_lt_of_mem {place below : Place} (h : below ∈ place.descendants) :
    place.index < below.index ∧ below.index < place.index + place.element.size := by
  obtain ⟨i, helement, hindex⟩ := mem_descendants_iff.mp h
  have hlt := (List.getElem?_eq_some_iff.mp helement).1
  rw [Element.length_subtree] at hlt
  omega

/-- What is below a place below another one is below that one. -/
theorem descendants_subset {outer inner : Place} (h : inner ∈ outer.descendants) :
    inner.descendants ⊆ outer.descendants := by
  intro below hbelow
  obtain ⟨i, hinner, hindex⟩ := mem_descendants_iff.mp h
  obtain ⟨j, helement, hindex'⟩ := mem_descendants_iff.mp hbelow
  have hj := (List.getElem?_eq_some_iff.mp helement).1
  rw [Element.length_subtree] at hj
  refine mem_descendants_iff.mpr ⟨i + 1 + j, ?_, by omega⟩
  rw [Nat.add_assoc _ j 1, Element.getElem?_subtree_add hinner hj]
  exact helement

/-- Of two places in a document, one is below the other when its index falls into the subtree of the
other. -/
theorem mem_descendants_iff_index {root outer inner : Place} (houter : outer ∈ root.descendants)
    (hinner : inner ∈ root.descendants) :
    inner ∈ outer.descendants ↔
      outer.index < inner.index ∧ inner.index < outer.index + outer.element.size := by
  refine ⟨index_lt_of_mem, fun ⟨hlt, hinside⟩ => ?_⟩
  obtain ⟨i, helement, hindex⟩ := mem_descendants_iff.mp houter
  obtain ⟨k, helement', hindex'⟩ := mem_descendants_iff.mp hinner
  obtain ⟨j, hj⟩ : ∃ j, k = i + 1 + j := ⟨k - (i + 1), by omega⟩
  refine mem_descendants_iff.mpr ⟨j, ?_, by omega⟩
  have hsize : j + 1 < outer.element.size := by omega
  rw [← Element.getElem?_subtree_add helement hsize, ← helement', hj, Nat.add_assoc _ j 1]

/-! ## Document order -/

/-- Places in document order, none of them twice. -/
def InOrder (places : List Place) : Prop := places.Pairwise (·.index < ·.index)

/-- Places of which none is below another. -/
def Apart (places : List Place) : Prop :=
  ∀ outer ∈ places, ∀ inner ∈ places, inner ∉ outer.descendants

/-- Places of which none has an index inside the subtree of another. -/
def Separate (places : List Place) : Prop :=
  ∀ outer ∈ places, ∀ inner ∈ places,
    ¬(outer.index < inner.index ∧ inner.index < outer.index + outer.element.size)

instance (places : List Place) : Decidable (Separate places) :=
  inferInstanceAs (Decidable (∀ outer ∈ places, ∀ inner ∈ places,
    ¬(outer.index < inner.index ∧ inner.index < outer.index + outer.element.size)))

/-- Whether places of a document are apart is seen from their indexes. -/
theorem apart_iff_separate {root : Place} {places : List Place}
    (hmem : places ⊆ root.descendants) : Apart places ↔ Separate places :=
  forall₂_congr fun _ houter => forall₂_congr fun _ hinner =>
    not_congr (mem_descendants_iff_index (hmem houter) (hmem hinner))

theorem inOrder_descendants (place : Place) : InOrder place.descendants := by
  rw [InOrder, descendants, List.pairwise_iff_getElem]
  intro i j hi hj hlt
  rw [List.getElem_mapIdx, List.getElem_mapIdx]
  exact Nat.add_lt_add_left hlt _

theorem mem_siblings {place : Place} :
    ∀ {siblings : List Element} {index : Nat}, place ∈ Place.siblings index siblings →
      ∃ i, (Element.forest siblings)[i]? = some place.element ∧ place.index = index + i
  | first :: rest, index, h => by
    obtain rfl | hrest := List.mem_cons.mp h
    · refine ⟨0, ?_, rfl⟩
      rw [Element.forest, Element.subtree_eq]
      rfl
    · obtain ⟨i, helement, hindex⟩ := mem_siblings hrest
      refine ⟨first.size + i, ?_, by omega⟩
      rw [Element.forest, List.getElem?_append_right (by rw [Element.length_subtree]; omega),
        Element.length_subtree, Nat.add_sub_cancel_left]
      exact helement

/-- The children of a place are below it. -/
theorem children_subset (place : Place) : place.children ⊆ place.descendants := by
  intro child hchild
  obtain ⟨i, helement, hindex⟩ := mem_siblings hchild
  refine mem_descendants_iff.mpr ⟨i, ?_, by omega⟩
  rw [Element.subtree_eq, List.getElem?_cons_succ]
  exact helement

theorem inOrder_siblings :
    ∀ (siblings : List Element) (index : Nat), InOrder (Place.siblings index siblings)
  | [], _ => .nil
  | first :: rest, index => by
    refine .cons (fun place hplace => ?_) (inOrder_siblings rest (index + first.size))
    obtain ⟨i, -, hindex⟩ := mem_siblings hplace
    have hpos := first.size_pos
    show index < place.index
    omega

theorem inOrder_children (place : Place) : InOrder place.children :=
  inOrder_siblings place.element.children (place.index + 1)

theorem map_element_siblings :
    ∀ (siblings : List Element) (index : Nat),
      (Place.siblings index siblings).map (·.element) = siblings
  | [], _ => rfl
  | first :: rest, index => by
    rw [Place.siblings, List.map_cons, map_element_siblings rest]

/-- Places in order, with none below another, stay in order when each is replaced by places below it
that are in order. -/
theorem inOrder_flatMap {root : Place} {places : List Place} {below : Place → List Place}
    (hmem : places ⊆ root.descendants) (horder : InOrder places) (hapart : Apart places)
    (hbelow : ∀ place ∈ places, InOrder (below place) ∧ below place ⊆ place.descendants) :
    InOrder (places.flatMap below) := by
  refine List.pairwise_flatMap.mpr ⟨fun place hplace => (hbelow place hplace).1, ?_⟩
  refine List.Pairwise.imp_of_mem ?_ horder
  intro first second hfirst hsecond hlt x hx y hy
  have hx' := (index_lt_of_mem ((hbelow first hfirst).2 hx)).2
  have hy' := (index_lt_of_mem ((hbelow second hsecond).2 hy)).1
  have hseparate := (apart_iff_separate hmem).mp hapart first hfirst second hsecond
  omega

end Place

end ODataExplorer.Xml
