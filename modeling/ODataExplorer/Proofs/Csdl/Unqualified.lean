import ODataExplorer.Proofs.Csdl.Lookup
import ODataExplorer.Proofs.Xml.Tree

/-!
Reading a tree without its namespaces.

A tree keeps its local names and loses its namespaces (`unqualified`), and so does the attribute in
which an older document declares its version, where it stands alone. Nothing that a record is made
of changes with that: attributes are asked for by names that no namespace hides, and children by
their local names.

What may change is which elements a lookup at any depth finds, since its tiers look at namespaces.
It does not where all elements of a name are of one tier (`IsUniform`): then every lookup finds the
same elements (`IsUniform.findAll_unqualified`).
-/

namespace ODataExplorer.Csdl

open Xml Text

/-! ## The version attribute -/

/-- The local name of the attribute in which an older document declares its version. -/
def versionName : String := "DataServiceVersion"

/-- Whether an attribute is one of those, in whatever namespace. -/
def isVersion (entry : String × String) : Bool := localName entry.1 == versionName

/-- Puts a version attribute into a namespace, or into none. -/
def moveEntry (uri? : Option String) (entry : String × String) : String × String :=
  if isVersion entry then (tagIn uri? versionName, entry.2) else entry

/-- Puts the version attributes among some into a namespace, or into none. -/
def moveVersion (uri? : Option String) (attributes : List (String × String)) :
    List (String × String) :=
  attributes.map (moveEntry uri?)

/-- Whether an element of a name declares the version, and does so in one attribute only. -/
def declaresVersion (name : String) (attributes : List (String × String)) : Bool :=
  name == "DataServices" && attributes.countP isVersion == 1

/-- The attributes of an element of a name, with the one that declares the version in a namespace,
or in none. -/
def placeVersion (uri? : Option String) (name : String) (attributes : List (String × String)) :
    List (String × String) :=
  if declaresVersion name attributes then moveVersion uri? attributes else attributes

variable {name : String} {uri? : Option String} {attributes : List (String × String)}

theorem isPlain_versionName : IsPlain versionName := by decide

theorem isVersion_of_eq {entry : String × String} (h : versionName = entry.1) :
    isVersion entry = true := by
  rw [isVersion, ← h, isPlain_versionName.localName_eq, beq_self_eq_true]

theorem moveEntry_of_isVersion {entry : String × String} (h : isVersion entry = true) :
    moveEntry uri? entry = (tagIn uri? versionName, entry.2) :=
  if_pos h

theorem moveEntry_of_not_isVersion {entry : String × String} (h : isVersion entry = false) :
    moveEntry uri? entry = entry :=
  if_neg (Bool.eq_false_iff.mp h)

theorem moveEntry_value (entry : String × String) : (moveEntry uri? entry).2 = entry.2 := by
  unfold moveEntry
  split <;> rfl

theorem isVersion_moveEntry (entry : String × String) :
    isVersion (moveEntry uri? entry) = isVersion entry := by
  unfold moveEntry
  split
  · next hversion =>
    rw [hversion, isVersion, isPlain_versionName.localName_tagIn, beq_self_eq_true]
  · rfl

theorem countP_moveVersion :
    (moveVersion uri? attributes).countP isVersion = attributes.countP isVersion := by
  rw [moveVersion, List.countP_map]
  exact congrArg (List.countP · attributes) (funext isVersion_moveEntry)

theorem declaresVersion_moveVersion :
    declaresVersion name (moveVersion uri? attributes) = declaresVersion name attributes := by
  rw [declaresVersion, countP_moveVersion, declaresVersion]

/-- Of two moves the last one counts. -/
theorem moveVersion_moveVersion (first? last? : Option String) :
    moveVersion last? (moveVersion first? attributes) = moveVersion last? attributes := by
  rw [moveVersion, moveVersion, List.map_map]
  refine List.map_congr_left fun entry _ => ?_
  rw [Function.comp_apply]
  cases hversion : isVersion entry with
  | true =>
    rw [moveEntry_of_isVersion ((isVersion_moveEntry entry).trans hversion), moveEntry_value,
      moveEntry_of_isVersion hversion]
  | false => rw [moveEntry_of_not_isVersion hversion]

theorem placeVersion_placeVersion (first? last? : Option String) :
    placeVersion last? name (placeVersion first? name attributes) =
      placeVersion last? name attributes := by
  unfold placeVersion
  split
  · next hdeclares =>
    rw [declaresVersion_moveVersion, if_pos hdeclares, moveVersion_moveVersion]
  · rfl

/-- The attributes of another plain name stay where they are. -/
theorem lookup_moveVersion (hplain : IsPlain name) (hne : name ≠ versionName) :
    (moveVersion uri? attributes).lookup name = attributes.lookup name := by
  induction attributes with
  | nil => rfl
  | cons entry rest ih =>
    rw [moveVersion, List.map_cons, ← moveVersion]
    cases hversion : isVersion entry with
    | false =>
      rw [moveEntry_of_not_isVersion hversion, List.lookup_cons, List.lookup_cons, ih]
    | true =>
      have hother : ∀ key, localName key = versionName → (name == key) = false := by
        rintro key hkey
        refine beq_eq_false_iff_ne.mpr ?_
        rintro rfl
        exact hne (hplain.localName_eq.symm.trans hkey)
      have hmoved : (name == (moveEntry uri? entry).1) = false :=
        hother _ (beq_iff_eq.mp ((isVersion_moveEntry entry).trans hversion))
      have hentry : (name == entry.1) = false := hother _ (beq_iff_eq.mp hversion)
      rw [List.lookup_cons, List.lookup_cons, hmoved, hentry, ih]

/-- Where there is one version attribute at most, it is found in whatever namespace it is. -/
theorem version_of_countP_le (h : attributes.countP isVersion ≤ 1) :
    (attributes.lookup versionName).or ((attributes.find? isVersion).map (·.2)) =
      (attributes.find? isVersion).map (·.2) := by
  induction attributes with
  | nil => rfl
  | cons entry rest ih =>
    cases hversion : isVersion entry with
    | false =>
      have hother : (versionName == entry.1) = false :=
        beq_eq_false_iff_ne.mpr fun heq => Bool.eq_false_iff.mp hversion (isVersion_of_eq heq)
      rw [List.countP_cons_of_neg (Bool.eq_false_iff.mp hversion)] at h
      rw [List.lookup_cons, hother, List.find?_cons_of_neg (Bool.eq_false_iff.mp hversion), ih h]
    | true =>
      rw [List.countP_cons_of_pos hversion] at h
      have hrest : rest.lookup versionName = none := by
        refine List.lookup_eq_none_iff.mpr fun other hmem => bne_iff_ne.mpr fun heq => ?_
        have hcount := Nat.le_zero.mp (Nat.le_of_succ_le_succ h)
        exact List.countP_eq_zero.mp hcount other hmem (isVersion_of_eq heq)
      rw [List.lookup_cons, List.find?_cons_of_pos hversion, hrest]
      cases versionName == entry.1 <;> rfl

theorem find?_moveVersion :
    ((moveVersion uri? attributes).find? isVersion).map (·.2) =
      (attributes.find? isVersion).map (·.2) := by
  rw [moveVersion, List.find?_map, Option.map_map]
  have hpred : isVersion ∘ moveEntry uri? = isVersion := funext isVersion_moveEntry
  rw [hpred]
  exact congrArg (Option.map · _) (funext moveEntry_value)

/-! ## Trees without namespaces -/

mutual

/-- A tree with its tags, and its version attributes that stand alone, taken out of their
namespaces. -/
def unqualified : Element → Element
  | .node tag attributes children =>
    .node (localName tag) (placeVersion none (localName tag) attributes) (unqualifiedAll children)

def unqualifiedAll : List Element → List Element
  | [] => []
  | element :: rest => unqualified element :: unqualifiedAll rest

end

theorem unqualifiedAll_eq_map : ∀ siblings, unqualifiedAll siblings = siblings.map unqualified
  | [] => rfl
  | element :: rest => by rw [unqualifiedAll, unqualifiedAll_eq_map rest, List.map_cons]

variable {element : Element}

theorem tag_unqualified : (unqualified element).tag = localName element.tag := by
  cases element
  rfl

theorem children_unqualified :
    (unqualified element).children = element.children.map unqualified := by
  cases element
  exact unqualifiedAll_eq_map _

theorem attributes_unqualified :
    (unqualified element).attributes =
      placeVersion none (localName element.tag) element.attributes := by
  cases element with
  | node tag attributes children =>
    simp only [unqualified, Element.attributes, Element.tag]

theorem localName_tag_unqualified :
    localName (unqualified element).tag = localName element.tag := by
  rw [tag_unqualified, localName_localName]

mutual

theorem subtree_unqualified : ∀ element : Element,
    (unqualified element).subtree = element.subtree.map unqualified
  | .node tag attributes children => by
    rw [unqualified, Element.subtree, forest_unqualifiedAll children, Element.subtree,
      List.map_cons, unqualified]

theorem forest_unqualifiedAll : ∀ siblings : List Element,
    Element.forest (unqualifiedAll siblings) = (Element.forest siblings).map unqualified
  | [] => rfl
  | element :: rest => by
    rw [unqualifiedAll, Element.forest, subtree_unqualified element, forest_unqualifiedAll rest,
      Element.forest, List.map_append]

end

theorem descendants_unqualified :
    (unqualified element).descendants = element.descendants.map unqualified := by
  rw [Element.descendants, children_unqualified, ← unqualifiedAll_eq_map, forest_unqualifiedAll,
    Element.descendants]

/-! ## Attributes and children -/

/-- No namespace hides an attribute of a plain name. -/
theorem get?_unqualified (hplain : IsPlain name) (hne : name ≠ versionName) :
    (unqualified element).get? name = element.get? name := by
  rw [Element.get?, attributes_unqualified, placeVersion]
  split
  · exact lookup_moveVersion hplain hne
  · rfl

/-- The version is found in whatever namespace it is. -/
theorem attributeByLocalName?_unqualified :
    attributeByLocalName? versionName (unqualified element) =
      attributeByLocalName? versionName element := by
  unfold attributeByLocalName? Element.get?
  rw [attributes_unqualified, placeVersion]
  split
  · next hdeclares =>
    rw [declaresVersion, Bool.and_eq_true, beq_iff_eq, beq_iff_eq] at hdeclares
    have hcount := Nat.le_of_eq hdeclares.2
    have hmoved : (moveVersion none element.attributes).countP isVersion ≤ 1 := by
      rw [countP_moveVersion]
      exact hcount
    exact (version_of_countP_le hmoved).trans
      (find?_moveVersion.trans (version_of_countP_le hcount).symm)
  · rfl

theorem childrenNamed_unqualified :
    childrenNamed name (unqualified element) = (childrenNamed name element).map unqualified := by
  rw [childrenNamed, children_unqualified, List.filter_map, childrenNamed]
  refine congrArg _ (List.filter_congr fun child _ => ?_)
  rw [Function.comp_apply, localName_tag_unqualified]

/-! ## Lookups at any depth -/

/-- The elements of a tree that share a local name are all of one tier. -/
def IsUniform (root : Element) : Prop :=
  ∀ a ∈ root.subtree, ∀ b ∈ root.subtree, localName a.tag = localName b.tag →
    tierOf a.tag = tierOf b.tag

theorem IsUniform.of_mem {below : Element} (h : IsUniform element)
    (hmem : below ∈ element.descendants) : IsUniform below := by
  have hsubset := Element.subtree_subset (Element.mem_subtree_of_mem_descendants hmem)
  intro a ha b hb
  exact h a (hsubset ha) b (hsubset hb)

/-- What a lookup finds in a uniform tree is uniform. -/
theorem IsUniform.of_mem_findAll {below : Element} (h : IsUniform element)
    (hmem : below ∈ findAll name element) : IsUniform below :=
  h.of_mem (mem_of_mem_lookup hmem)

/-- In a uniform tree a lookup compares local names. -/
theorem IsUniform.findAll_eq_filter (h : IsUniform element) (hplain : IsPlain name)
    (hne : name ≠ "") :
    findAll name element = element.descendants.filter fun below => localName below.tag == name := by
  refine lookup_eq_filter hplain hne fun a ha b hb haname hbname => ?_
  exact h a (Element.mem_subtree_of_mem_descendants ha) b
    (Element.mem_subtree_of_mem_descendants hb) (haname.trans hbname.symm)

/-- A tree without namespaces is uniform: every tag is bare. -/
theorem isUniform_unqualified (element : Element) : IsUniform (unqualified element) := by
  have htier : ∀ below ∈ (unqualified element).subtree, tierOf below.tag = .bare := by
    intro below hmem
    rw [subtree_unqualified] at hmem
    obtain ⟨original, -, rfl⟩ := List.mem_map.mp hmem
    rw [tag_unqualified]
    exact tierOf_tagIn (isPlain_localName original.tag) none
  intro a ha b hb _
  rw [htier a ha, htier b hb]

/-- **In a uniform tree a lookup finds the same elements with namespaces and without.** -/
theorem IsUniform.findAll_unqualified (h : IsUniform element) (hplain : IsPlain name)
    (hne : name ≠ "") :
    findAll name (unqualified element) = (findAll name element).map unqualified := by
  rw [(isUniform_unqualified element).findAll_eq_filter hplain hne, h.findAll_eq_filter hplain hne,
    descendants_unqualified, List.filter_map]
  refine congrArg _ (List.filter_congr fun below _ => ?_)
  rw [Function.comp_apply, localName_tag_unqualified]

end ODataExplorer.Csdl
