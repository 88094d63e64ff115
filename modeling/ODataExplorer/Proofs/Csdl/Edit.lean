import Mathlib.Data.List.Forall2
import ODataExplorer.Proofs.Csdl.Alike

/-!
Edited trees.

An edit says which siblings may take the place of which, by the names of the elements around them
(`Edit`). A tree is edited by doing this to the children of each of its elements, from the innermost
outwards; tags and attributes stay (`Edited`). The edits at hand leave all siblings as they are
besides some loose ones (`SameBesides`), which they exchange or move.

An edit that leaves the elements of a name alone does not show in what is looked up under the name:
the same elements are found, edited themselves (`EditedIn.findAll`, `EditedIn.childrenNamed`). This
is an induction over the two trees side by side. An edit leaves a name alone if no loose sibling has
it, or holds an element that does (`leavesAlone_of_loose`).

What is edited may depend on what is around. A path says what has to be: the names of an element and
of some elements around it, innermost first, with any others between them.
-/

namespace ODataExplorer.Csdl

open Xml Text

/-! ## Edits -/

/-- What may become of siblings, by the local names of the elements around them, innermost first. -/
abbrev Edit := List String → List Element → List Element → Prop

mutual

/-- A tree and an edited one. The children of an element are edited one by one, and what came of
them is then exchanged for what the edit allows there. -/
inductive Edited (edit : Edit) : List String → Element → Element → Prop
  | node {around : List String} {tag : String} {attributes : List (String × String)}
    {children between children' : List Element}
    (below : EditedAll edit (localName tag :: around) children between)
    (siblings : edit (localName tag :: around) between children') :
    Edited edit around (.node tag attributes children) (.node tag attributes children')

inductive EditedAll (edit : Edit) : List String → List Element → List Element → Prop
  | nil {around : List String} : EditedAll edit around [] []
  | cons {around : List String} {element element' : Element} {rest rest' : List Element}
    (first : Edited edit around element element') (others : EditedAll edit around rest rest') :
    EditedAll edit around (element :: rest) (element' :: rest')

end

/-- An element and what an edit made of it, at a place where a path leads to the element. -/
def EditedIn (edit : Edit) (path : List String) (a b : Element) : Prop :=
  ∃ around, path.Sublist (localName a.tag :: around) ∧ Edited edit around a b

variable {edit : Edit} {around path : List String} {name : String} {a b : Element}
  {elements elements' : List Element}

theorem Edited.tag_eq (h : Edited edit around a b) : a.tag = b.tag := by
  cases h
  rfl

theorem Edited.attributes_eq (h : Edited edit around a b) : a.attributes = b.attributes := by
  cases h
  rfl

mutual

/-- An edit that may leave siblings as they are may leave a tree as it is. -/
theorem Edited.refl (hrefl : ∀ around elements, edit around elements elements) :
    ∀ (around : List String) (element : Element), Edited edit around element element
  | _, .node _ _ children => .node (EditedAll.refl hrefl _ children) (hrefl _ children)

theorem EditedAll.refl (hrefl : ∀ around elements, edit around elements elements) :
    ∀ (around : List String) (elements : List Element), EditedAll edit around elements elements
  | _, [] => .nil
  | around, element :: rest =>
    .cons (Edited.refl hrefl around element) (EditedAll.refl hrefl around rest)

end

/-- An edit of the first child is one of the element. -/
theorem Edited.head (hrefl : ∀ around elements, edit around elements elements) {tag : String}
    {attributes : List (String × String)} {rest : List Element}
    (h : Edited edit (localName tag :: around) a b) :
    Edited edit around (.node tag attributes (a :: rest)) (.node tag attributes (b :: rest)) :=
  .node (.cons h (EditedAll.refl hrefl _ rest)) (hrefl _ _)

/-- Children may be exchanged for others without being edited themselves. -/
theorem Edited.siblings (hrefl : ∀ around elements, edit around elements elements) {tag : String}
    {attributes : List (String × String)}
    (h : edit (localName tag :: around) elements elements') :
    Edited edit around (.node tag attributes elements) (.node tag attributes elements') :=
  .node (EditedAll.refl hrefl _ elements) h

theorem EditedIn.of_edited (h : Edited edit around a b) : EditedIn edit [] a b :=
  ⟨around, List.nil_sublist _, h⟩

theorem EditedIn.mono {shorter : List String} (h : EditedIn edit path a b)
    (hshorter : shorter.Sublist path) : EditedIn edit shorter a b := by
  obtain ⟨around, hpath, hedited⟩ := h
  exact ⟨around, hshorter.trans hpath, hedited⟩

theorem EditedIn.tag_eq (h : EditedIn edit path a b) : a.tag = b.tag := by
  obtain ⟨around, -, hedited⟩ := h
  exact hedited.tag_eq

/-- An element that was edited says the same of itself. -/
theorem saysAlike_editedIn (edit : Edit) (path : List String) :
    SaysAlike (EditedIn edit path) where
  localName_eq h := congrArg localName h.tag_eq
  get?_eq := by
    rintro a b name ⟨around, -, hedited⟩ - -
    rw [Element.get?, hedited.attributes_eq, Element.get?]
  version_eq := by
    rintro a b ⟨around, -, hedited⟩
    rw [attributeByLocalName?, Element.get?, hedited.attributes_eq, attributeByLocalName?,
      Element.get?]

/-! ## Edits that leave a name alone -/

/-- Below a path, an edit leaves the elements of a name alone: siblings that are exchanged hold the
same ones in the same order. -/
def LeavesAlone (edit : Edit) (path : List String) (name : String) : Prop :=
  ∀ around, path.Sublist around → ∀ elements elements', edit around elements elements' →
    (Element.forest elements).filter (localName ·.tag == name) =
      (Element.forest elements').filter (localName ·.tag == name)

/-- The same of the siblings themselves, whatever they hold. -/
def LeavesSiblingsAlone (edit : Edit) (path : List String) (name : String) : Prop :=
  ∀ around, path.Sublist around → ∀ elements elements', edit around elements elements' →
    elements.filter (localName ·.tag == name) = elements'.filter (localName ·.tag == name)

mutual

theorem Edited.filter_subtree (hname : LeavesAlone edit path name) :
    ∀ {around : List String} {a b : Element}, path.Sublist around → Edited edit around a b →
      List.Forall₂ (EditedIn edit (name :: path)) (a.subtree.filter (localName ·.tag == name))
        (b.subtree.filter (localName ·.tag == name))
  | around, _, _, hpath, @Edited.node _ _ tag attributes _ _ _ below siblings => by
    have hinner : path.Sublist (localName tag :: around) := hpath.cons _
    -- the children go along one by one until they are exchanged, which leaves the name alone
    have hbelow := EditedAll.filter_forest hname hinner below
    rw [hname _ hinner _ _ siblings] at hbelow
    simp only [Element.subtree, List.filter_cons, Element.tag]
    split
    · next hfound =>
      rw [← eq_of_beq hfound] at hbelow ⊢
      exact .cons ⟨around, hpath.cons_cons _, .node below siblings⟩ hbelow
    · exact hbelow

theorem EditedAll.filter_forest (hname : LeavesAlone edit path name) :
    ∀ {around : List String} {elements elements' : List Element}, path.Sublist around →
      EditedAll edit around elements elements' →
        List.Forall₂ (EditedIn edit (name :: path))
          ((Element.forest elements).filter (localName ·.tag == name))
          ((Element.forest elements').filter (localName ·.tag == name))
  | _, _, _, _, .nil => .nil
  | _, _, _, hpath, .cons first others => by
    rw [Element.forest, Element.forest, List.filter_append, List.filter_append]
    exact List.rel_append (Edited.filter_subtree hname hpath first)
      (EditedAll.filter_forest hname hpath others)

end

/-- Siblings of a name are edited one by one. -/
theorem EditedAll.filter (hpath : path.Sublist around)
    (h : EditedAll edit around elements elements') :
    List.Forall₂ (EditedIn edit (name :: path)) (elements.filter (localName ·.tag == name))
      (elements'.filter (localName ·.tag == name)) := by
  induction elements generalizing elements' with
  | nil =>
    cases h
    exact .nil
  | cons element rest ih =>
    cases h with
    | cons hfirst hrest =>
      rw [List.filter_cons, List.filter_cons, ← hfirst.tag_eq]
      split
      · next hfound =>
        refine .cons ⟨around, ?_, hfirst⟩ (ih hrest)
        rw [eq_of_beq hfound]
        exact hpath.cons_cons name
      · exact ih hrest

/-- **What is found in a tree is found in the edited one,** if the edit leaves the name alone. -/
theorem EditedIn.findAll (hplain : IsPlain name) (hname : LeavesAlone edit path name)
    (h : EditedIn edit path a b) :
    List.Forall₂ (EditedIn edit (name :: path)) (Csdl.findAll name a) (Csdl.findAll name b) := by
  obtain ⟨around, hpath, hedited⟩ := h
  have hseen (element : Element) :
      Csdl.findAll name element =
        lookup Element.tag name
          ((Element.forest element.children).filter (localName ·.tag == name)) :=
    (lookup_filter hplain).symm
  cases hedited with
  | node below siblings =>
    have hbelow := EditedAll.filter_forest hname hpath below
    rw [hname _ hpath _ _ siblings] at hbelow
    rw [hseen, hseen]
    exact forall₂_lookup EditedIn.tag_eq hbelow

/-- The same of children. -/
theorem EditedIn.childrenNamed (hname : LeavesSiblingsAlone edit path name)
    (h : EditedIn edit path a b) :
    List.Forall₂ (EditedIn edit (name :: path)) (Csdl.childrenNamed name a)
      (Csdl.childrenNamed name b) := by
  obtain ⟨around, hpath, hedited⟩ := h
  cases hedited with
  | node below siblings =>
    have hbelow : List.Forall₂ (EditedIn edit (name :: path)) _ _ := below.filter hpath
    rw [hname _ hpath _ _ siblings] at hbelow
    exact hbelow

theorem findsAlike_editedIn (hplain : IsPlain name) (hname : LeavesAlone edit path name) :
    FindsAlike (EditedIn edit path) name := fun _ _ h =>
  (h.findAll hplain hname).imp fun _ _ hedited => hedited.mono (List.sublist_cons_self name path)

theorem holdsAlike_editedIn (hname : LeavesSiblingsAlone edit path name) :
    HoldsAlike (EditedIn edit path) name := fun _ _ h =>
  (h.childrenNamed hname).imp fun _ _ hedited => hedited.mono (List.sublist_cons_self name path)

/-! ## Loose siblings -/

/-- Siblings that are the same besides loose ones, in the same order. -/
def SameBesides (loose : Element → Bool) (elements elements' : List Element) : Prop :=
  elements.filter (!loose ·) = elements'.filter (!loose ·)

/-- The edit that inserts, removes and replaces loose siblings. Which ones are loose depends on the
names around them. -/
def exchange (loose : List String → Element → Bool) : Edit := fun around =>
  SameBesides (loose around)

/-- The edit that moves loose siblings. -/
def rearrange (loose : List String → Element → Bool) : Edit := fun around elements elements' =>
  elements.Perm elements' ∧ SameBesides (loose around) elements elements'

/-- An edit that leaves siblings as they are besides loose ones. -/
def EditsOnly (loose : List String → Element → Bool) (edit : Edit) : Prop :=
  ∀ around elements elements', edit around elements elements' →
    SameBesides (loose around) elements elements'

theorem editsOnly_exchange (loose : List String → Element → Bool) :
    EditsOnly loose (exchange loose) := fun _ _ _ => id

theorem editsOnly_rearrange (loose : List String → Element → Bool) :
    EditsOnly loose (rearrange loose) := fun _ _ _ => And.right

/-- An element that neither has one of some names nor holds an element that does. -/
def holdsNone (names : List String) (element : Element) : Bool :=
  element.subtree.all fun below => !names.contains (localName below.tag)

theorem localName_ne_of_holdsNone {names : List String} {element below : Element}
    (h : holdsNone names element = true) (hname : name ∈ names) (hbelow : below ∈ element.subtree) :
    localName below.tag ≠ name := by
  rintro rfl
  have hfree := List.all_eq_true.mp h below hbelow
  rw [List.contains_iff_mem.mpr hname] at hfree
  cases hfree

section Loose

variable {loose : Element → Bool}

theorem SameBesides.filter_eq {p : Element → Bool} (h : SameBesides loose elements elements')
    (hloose : ∀ e, loose e = true → p e = false) : elements.filter p = elements'.filter p := by
  have hfilter (siblings : List Element) :
      siblings.filter p = (siblings.filter (!loose ·)).filter p := by
    rw [List.filter_filter]
    refine List.filter_congr fun e _ => ?_
    cases he : loose e with
    | true => rw [hloose e he]; rfl
    | false => rw [Bool.not_false, Bool.and_true]
  rw [hfilter, h, ← hfilter]

/-- What no loose sibling holds is held by the others, in the same order. -/
theorem SameBesides.filter_forest_eq {p : Element → Bool} (h : SameBesides loose elements elements')
    (hloose : ∀ e, loose e = true → e.subtree.filter p = []) :
    (Element.forest elements).filter p = (Element.forest elements').filter p := by
  have hforest (siblings : List Element) :
      (Element.forest siblings).filter p =
        (Element.forest (siblings.filter (!loose ·))).filter p := by
    induction siblings with
    | nil => rfl
    | cons element rest ih =>
      rw [Element.forest, List.filter_append, ih, List.filter_cons]
      cases he : loose element with
      | true => rw [hloose element he]; rfl
      | false => rw [Bool.not_false, if_pos rfl, Element.forest, List.filter_append]
  rw [hforest, h, ← hforest]

end Loose

/-- An edit of loose siblings leaves alone what they do not hold. -/
theorem leavesAlone_of_loose {loose : List String → Element → Bool} (hedit : EditsOnly loose edit)
    (hloose : ∀ around, path.Sublist around → ∀ e, loose around e = true →
      ∀ below ∈ e.subtree, localName below.tag ≠ name) : LeavesAlone edit path name := by
  intro around hpath elements elements' hsiblings
  refine (hedit around elements elements' hsiblings).filter_forest_eq fun e he => ?_
  exact List.filter_eq_nil_iff.mpr fun below hbelow hname =>
    hloose around hpath e he below hbelow (eq_of_beq hname)

theorem leavesSiblingsAlone_of_loose {loose : List String → Element → Bool}
    (hedit : EditsOnly loose edit)
    (hloose : ∀ around, path.Sublist around → ∀ e, loose around e = true →
      localName e.tag ≠ name) : LeavesSiblingsAlone edit path name := by
  intro around hpath elements elements' hsiblings
  refine (hedit around elements elements' hsiblings).filter_eq fun e he => ?_
  exact beq_eq_false_iff_ne.mpr (hloose around hpath e he)

/-! ## Inside types -/

/-- The path to the types of a schema. -/
def typePath : List String := ["EntityType", "Schema"]

/-- Whether a sibling has nothing that a key is made of, if it is inside a type of a schema. -/
def sparesKeys (around : List String) (element : Element) : Bool :=
  !decide (typePath.Sublist around) || holdsNone keyNames element

/-- The types of a schema are read alike if loose siblings spare their keys and are none of what is
looked for among children. -/
theorem typesAlike_editedIn {loose : List String → Element → Bool} (hedit : EditsOnly loose edit)
    (hkeys : ∀ around e, loose around e = true → sparesKeys around e = true)
    (hchildren : ∀ around e, loose around e = true → localName e.tag ∉ childNames) :
    TypesAlike (EditedIn edit typePath) where
  toSaysAlike := saysAlike_editedIn edit typePath
  finds name hname := by
    have hplain : ∀ name ∈ keyNames, IsPlain name := by decide
    refine findsAlike_editedIn (hplain name hname) (leavesAlone_of_loose hedit ?_)
    intro around hpath e he below hbelow
    have hspared := hkeys around e he
    rw [sparesKeys, decide_eq_true hpath] at hspared
    exact localName_ne_of_holdsNone hspared hname hbelow
  holds name hname := by
    have hchild : ∀ name ∈ ["Property", "NavigationProperty", "ReferentialConstraint"],
      name ∈ childNames := by decide
    refine holdsAlike_editedIn (leavesSiblingsAlone_of_loose hedit ?_)
    rintro around - e he rfl
    exact hchildren around e he (hchild _ hname)

end ODataExplorer.Csdl
