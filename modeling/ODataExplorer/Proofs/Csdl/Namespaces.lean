import ODataExplorer.Proofs.Csdl.Alike

/-!
A document means the same in whatever namespaces it is.

A tree of plain names is given namespaces by an assignment, element by element, and so is the
attribute in which an older document declares its version, where it stands alone. The assignment
may tear elements of one name apart, as long as they stay in one tier. Taken out of the namespaces
again, the tree is what it was (`unqualified_apply`); and what a uniform tree comes to, it comes
to without namespaces (`outcome?_unqualified`). So no two assignments can be told apart by the
model and by what the parser keeps (`parse_namespaces`).
-/

namespace ODataExplorer.Csdl

open Xml

/-! ## Assignments -/

/-- Where the attribute goes that declares the version: it stays, or it moves to a namespace or out
of any. -/
inductive VersionPlace where
  | stays
  | moves (uri? : Option String)

def VersionPlace.apply (name : String) (attributes : List (String × String)) :
    VersionPlace → List (String × String)
  | .stays => attributes
  | .moves uri? => placeVersion uri? name attributes

/-- Namespaces for the elements of a tree and for their version attributes. An element is told by
the path to it: the indexes of the children that lead there from the root. -/
structure Assignment where
  uri? : List Nat → Option String
  version : List Nat → VersionPlace

namespace Assignment

/-- What an assignment says about a child of the root and all below it. -/
def below (index : Nat) (assignment : Assignment) : Assignment where
  uri? path := assignment.uri? (index :: path)
  version path := assignment.version (index :: path)

mutual

/-- A tree with its elements in the namespaces of an assignment. -/
def apply : Assignment → Element → Element
  | assignment, .node name attributes children =>
    .node (tagIn (assignment.uri? []) name) ((assignment.version []).apply name attributes)
      (applyFrom assignment 0 children)

/-- Siblings in the namespaces of an assignment, the first of them at an index. -/
def applyFrom : Assignment → Nat → List Element → List Element
  | _, _, [] => []
  | assignment, index, element :: rest =>
    apply (assignment.below index) element :: applyFrom assignment (index + 1) rest

end

end Assignment

/-- The element that a path leads to. -/
def elementAt? : List Nat → Element → Option Element
  | [], element => some element
  | index :: path, element => element.children[index]?.bind (elementAt? path)

/-- All elements of a tree have plain names. -/
def IsPlainTree (tree : Element) : Prop := ∀ element ∈ tree.subtree, IsPlain element.tag

/-- An assignment puts all elements of a name into namespaces of one tier. -/
def Assignment.IsUniformOn (tree : Element) (assignment : Assignment) : Prop :=
  ∀ path path' element element',
    elementAt? path tree = some element → elementAt? path' tree = some element' →
      element.tag = element'.tag →
        Tier.ofNamespace? (assignment.uri? path) = Tier.ofNamespace? (assignment.uri? path')

/-! ## Trees under an assignment -/

theorem VersionPlace.placeVersion_apply (name : String) (attributes : List (String × String))
    (place : VersionPlace) :
    placeVersion none name (place.apply name attributes) = placeVersion none name attributes := by
  cases place with
  | stays => rfl
  | moves uri? => exact placeVersion_placeVersion uri? none

mutual

/-- An assignment leaves a plain tree what it is without namespaces. -/
theorem unqualified_apply : ∀ (assignment : Assignment) (tree : Element), IsPlainTree tree →
    unqualified (assignment.apply tree) = unqualified tree
  | assignment, .node name attributes children, hplain => by
    have hname : IsPlain name := hplain _ (Element.mem_subtree_self _)
    have hchildren : ∀ element ∈ Element.forest children, IsPlain element.tag :=
      fun element hmem => hplain element (List.mem_cons_of_mem _ hmem)
    rw [Assignment.apply, unqualified, unqualified, hname.localName_tagIn, hname.localName_eq,
      VersionPlace.placeVersion_apply, unqualifiedAll_applyFrom assignment 0 children hchildren]

theorem unqualifiedAll_applyFrom : ∀ (assignment : Assignment) (index : Nat)
    (siblings : List Element), (∀ element ∈ Element.forest siblings, IsPlain element.tag) →
      unqualifiedAll (assignment.applyFrom index siblings) = unqualifiedAll siblings
  | _, _, [], _ => rfl
  | assignment, index, element :: rest, hplain => by
    have hfirst : IsPlainTree element := fun below hmem =>
      hplain below (List.mem_append_left _ hmem)
    rw [Assignment.applyFrom, unqualifiedAll, unqualifiedAll,
      unqualified_apply (assignment.below index) element hfirst,
      unqualifiedAll_applyFrom assignment (index + 1) rest fun below hmem =>
        hplain below (List.mem_append_right _ hmem)]

end

mutual

/-- An element of a tree under an assignment comes from one of the tree. -/
theorem exists_of_mem_subtree_apply : ∀ (assignment : Assignment) (tree : Element)
    {moved : Element}, moved ∈ (assignment.apply tree).subtree →
      ∃ path element, elementAt? path tree = some element ∧
        moved.tag = tagIn (assignment.uri? path) element.tag
  | assignment, .node name attributes children, moved, hmem => by
    rw [Assignment.apply, Element.subtree] at hmem
    obtain rfl | hbelow := List.mem_cons.mp hmem
    · exact ⟨[], .node name attributes children, rfl, rfl⟩
    · obtain ⟨index, path, element, hfound, htag⟩ :=
        exists_of_mem_forest_applyFrom assignment 0 children hbelow
      rw [Nat.zero_add] at htag
      exact ⟨index :: path, element, hfound, htag⟩

theorem exists_of_mem_forest_applyFrom : ∀ (assignment : Assignment) (start : Nat)
    (siblings : List Element) {moved : Element},
    moved ∈ Element.forest (assignment.applyFrom start siblings) →
      ∃ index path element, siblings[index]?.bind (elementAt? path) = some element ∧
        moved.tag = tagIn (assignment.uri? ((start + index) :: path)) element.tag
  | _, _, [], _, hmem => nomatch hmem
  | assignment, start, first :: rest, moved, hmem => by
    rw [Assignment.applyFrom, Element.forest] at hmem
    obtain hfirst | hrest := List.mem_append.mp hmem
    · obtain ⟨path, element, hfound, htag⟩ :=
        exists_of_mem_subtree_apply (assignment.below start) first hfirst
      exact ⟨0, path, element, hfound, htag⟩
    · obtain ⟨index, path, element, hfound, htag⟩ :=
        exists_of_mem_forest_applyFrom assignment (start + 1) rest hrest
      rw [Nat.add_right_comm] at htag
      exact ⟨index + 1, path, element, hfound, htag⟩

end

/-- A path leads to an element of the tree. -/
theorem mem_subtree_of_elementAt? : ∀ {path : List Nat} {tree element : Element},
    elementAt? path tree = some element → element ∈ tree.subtree
  | [], tree, element, h => by
    cases h
    exact Element.mem_subtree_self tree
  | index :: path, tree, element, h => by
    obtain ⟨child, hchild, hbelow⟩ := Option.bind_eq_some_iff.mp h
    have hmem := Element.mem_subtree_of_mem_children (List.mem_of_getElem? hchild)
    exact Element.subtree_subset hmem (mem_subtree_of_elementAt? hbelow)

/-- A plain tree under a uniform assignment is uniform. -/
theorem Assignment.IsUniformOn.isUniform_apply {assignment : Assignment} {tree : Element}
    (h : assignment.IsUniformOn tree) (hplain : IsPlainTree tree) :
    IsUniform (assignment.apply tree) := by
  intro a ha b hb hname
  obtain ⟨path, element, hfound, htag⟩ := exists_of_mem_subtree_apply assignment tree ha
  obtain ⟨path', element', hfound', htag'⟩ := exists_of_mem_subtree_apply assignment tree hb
  have helement := hplain element (mem_subtree_of_elementAt? hfound)
  have helement' := hplain element' (mem_subtree_of_elementAt? hfound')
  rw [htag, htag', helement.localName_tagIn, helement'.localName_tagIn] at hname
  rw [htag, htag', tierOf_tagIn helement, tierOf_tagIn helement']
  exact h path path' element element' hfound hfound' hname

/-! ## Outcomes -/

/-- A uniform element, and the element without its namespaces. -/
def LosesNamespaces (a b : Element) : Prop := IsUniform a ∧ b = unqualified a

theorem forall₂_losesNamespaces {elements : List Element} (h : ∀ e ∈ elements, IsUniform e) :
    List.Forall₂ LosesNamespaces elements (elements.map unqualified) :=
  List.forall₂_map_right_iff.mpr (List.forall₂_same.mpr fun e hmem => ⟨h e hmem, rfl⟩)

/-- No stage of a reading sees that a uniform tree loses its namespaces. -/
theorem readsAlike_losesNamespaces : ReadsAlike LosesNamespaces where
  localName_eq := by
    rintro a - ⟨-, rfl⟩
    exact localName_tag_unqualified.symm
  get?_eq := by
    rintro a - name ⟨-, rfl⟩ hplain hne
    exact (get?_unqualified hplain hne).symm
  version_eq := by
    rintro a - ⟨-, rfl⟩
    exact attributeByLocalName?_unqualified.symm
  finds := by
    rintro name hname a - ⟨huniform, rfl⟩
    have hplain : ∀ name ∈ deepNames, IsPlain name ∧ name ≠ "" := by decide
    rw [huniform.findAll_unqualified (hplain name hname).1 (hplain name hname).2]
    exact forall₂_losesNamespaces fun _ hmem => huniform.of_mem_findAll hmem
  holds := by
    rintro name - a - ⟨huniform, rfl⟩
    rw [childrenNamed_unqualified]
    exact forall₂_losesNamespaces fun child hmem =>
      huniform.of_mem (Element.mem_forest_of_mem (List.mem_filter.mp hmem).1)

/-- **A uniform tree comes to the same with namespaces and without.** -/
theorem outcome?_unqualified {root : Element} (h : IsUniform root) :
    outcome? (unqualified root) = outcome? root :=
  (readsAlike_losesNamespaces.outcome?_eq ⟨h, rfl⟩).symm

/-- **Parsing is blind to namespaces.** Under any two assignments that are uniform on a plain tree,
the tree has the same model or none, with as many navigations dropped. So have texts that are read
as the tree under the one and under the other, for a parser in any state. -/
theorem parse_namespaces (tree : Element) (hplain : IsPlainTree tree) (first second : Assignment)
    (hfirst : first.IsUniformOn tree) (hsecond : second.IsUniformOn tree) :
    outcome? (first.apply tree) = outcome? (second.apply tree) ∧
      ∀ content? content?' : Option String,
        readContent content? = .ok (first.apply tree) →
          readContent content?' = .ok (second.apply tree) →
            ∀ session : Session,
              (session.parse content?).1.toOption = (session.parse content?').1.toOption ∧
                (session.parse content?).2 = (session.parse content?').2 := by
  have houtcome : outcome? (first.apply tree) = outcome? (second.apply tree) := by
    rw [← outcome?_unqualified (hfirst.isUniform_apply hplain),
      ← outcome?_unqualified (hsecond.isUniform_apply hplain),
      unqualified_apply first tree hplain, unqualified_apply second tree hplain]
  refine ⟨houtcome, fun content? content?' hread hread' session => ?_⟩
  have hparse := parse_eq_outcome? session hread
  rw [houtcome, ← parse_eq_outcome? session hread'] at hparse
  exact Prod.mk.inj hparse

/-- A document of the older dialect with two schemas. -/
def twoSchemas : Element :=
  .node "Edmx" [("Version", "1.0")] [
    .node "DataServices" [("DataServiceVersion", "2.0")] [
      .node "Schema" [("Namespace", "Model")] [.node "EntityType" [("Name", "Order")] []],
      .node "Schema" [("Namespace", "Service")] []]]

/-- First children in one revision of the data model, all others in another, and the version in a
namespace of its own. -/
def mixedRevisions : Assignment where
  uri? path :=
    some (if path.getLast? == some 0 then "http://schemas.microsoft.com/ado/2006/04/edm"
      else "http://docs.oasis-open.org/odata/ns/edm")
  version _ := .moves (some "metadata")

/-- No namespaces at all. -/
def noNamespaces : Assignment where
  uri? _ := none
  version _ := .stays

/-- The revisions of the data model may be mixed, and the version is found. -/
theorem parse_namespaces_mixedRevisions :
    outcome? (mixedRevisions.apply twoSchemas) = outcome? (noNamespaces.apply twoSchemas) ∧
      (outcome? (mixedRevisions.apply twoSchemas)).map (·.1.versions.protocol) = some "2.0" := by
  have hplain : IsPlainTree twoSchemas := by
    unfold IsPlainTree
    decide
  have hmixed : ∀ path, Tier.ofNamespace? (mixedRevisions.uri? path) = .model := by
    intro path
    unfold mixedRevisions
    dsimp only
    split <;> decide
  have huniform : mixedRevisions.IsUniformOn twoSchemas := by
    intro path path' _ _ _ _ _
    rw [hmixed path, hmixed path']
  have hnone : noNamespaces.IsUniformOn twoSchemas := fun _ _ _ _ _ _ _ => rfl
  exact ⟨(parse_namespaces twoSchemas hplain mixedRevisions noNamespaces huniform hnone).1,
    by decide +kernel⟩

end ODataExplorer.Csdl
