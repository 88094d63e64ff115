import ODataExplorer.Proofs.Csdl.AssociationRole
import ODataExplorer.Proofs.Csdl.Declared
import ODataExplorer.Proofs.Csdl.Spelling

/-!
Where navigations lead.

A navigation holds one reference, and says by it both where it leads and whether to many. An older
document says the two apart, at the end of an association, and they are put together as a reference
to a collection. What is put together comes apart again: a navigation leads to many exactly if its
end has the multiplicity of many, and to the type of the end either way (`isCollectionType_endType`,
`reduceTypeName_endType`). The type of the end must not be a collection already, since a reference
to a collection of collections is read as one to a collection.

Main statement: every navigation that a model stores leads where its element declares, or where the
end does that its element names; and wrapping a reference as one to a collection, and blanks around
either, change nothing of its reduced name (`targets_kept`).
-/

namespace ODataExplorer.Csdl

open Xml Text

variable {element side : Element}

/-! ## The type of an end -/

theorem endType_of_many (h : trim (side.getText "Multiplicity") = many) :
    endType side = collectionOf (trim (side.getText "Type")) := by
  rw [endType, if_pos (beq_iff_eq.mpr h)]

theorem endType_of_ne_many (h : trim (side.getText "Multiplicity") ≠ many) :
    endType side = trim (side.getText "Type") := by
  rw [endType, if_neg fun heq => h (eq_of_beq heq)]

/-- A type that is no collection is wrapped exactly for many. -/
theorem isCollectionType_endType (h : isCollectionType (trim (side.getText "Type")) = false) :
    isCollectionType (endType side) = true ↔ trim (side.getText "Multiplicity") = many := by
  by_cases hmany : trim (side.getText "Multiplicity") = many
  · refine iff_of_true ?_ hmany
    rw [endType_of_many hmany, isCollectionType_collectionOf]
  · refine iff_of_false ?_ hmany
    rw [endType_of_ne_many hmany, h]
    exact Bool.false_ne_true

/-- The wrapping does not show in the reduced name. -/
theorem reduceTypeName_endType (h : isCollectionType (trim (side.getText "Type")) = false) :
    reduceTypeName (endType side) = reduceTypeName (trim (side.getText "Type")) := by
  have hsingle : isCollectionType (trim (trim (side.getText "Type"))) = false := by
    rw [← h]
    exact congrArg isCollectionType (isTrimmed_trim _)
  by_cases hmany : trim (side.getText "Multiplicity") = many
  · rw [endType_of_many hmany, reduceTypeName_collectionOf hsingle]
  · rw [endType_of_ne_many hmany]

/-- A navigation with the type of an end leads where the end does, and to many if the end does. -/
theorem leads_of_type_eq {navigation : Navigation} (htype : navigation.type = endType side)
    (h : isCollectionType (trim (side.getText "Type")) = false) :
    (navigation.isCollection = true ↔ trim (side.getText "Multiplicity") = many) ∧
      navigation.targetType = reduceTypeName (trim (side.getText "Type")) := by
  rw [Navigation.isCollection, Navigation.targetType, htype]
  exact ⟨isCollectionType_endType h, reduceTypeName_endType h⟩

/-! ## Kept navigations -/

/-- A navigation leads where its element says: by a type of its own, or by the association and the
role that it names. -/
inductive LeadsAsDeclared (reading : DocumentReading) (element : Element)
    (navigation : Navigation) : Prop
  /-- The element has a type, and the navigation leads where the type without its blanks does. -/
  | inline (typed : isBlankText (element.getText "Type") = false)
    (isCollection_eq : navigation.isCollection = isCollectionType (trim (element.getText "Type")))
    (targetType_eq : navigation.targetType = reduceTypeName (trim (element.getText "Type")))
  /-- The element has none, in an older document, and the navigation leads where the last end with
  its role does. -/
  | throughEnd {met : MetAssociation} {side : Element}
    (untyped : isBlankText (element.getText "Type") = true)
    (older : isModernVersion reading.versions.protocol = false)
    (picked : pick? (element.getText "Relationship") reading.schemaElements = some met)
    (last : (childrenNamed "End" met.element).reverse.find?
      (·.getText "Role" == element.getText "ToRole") = some side)
    (leads : isCollectionType (trim (side.getText "Type")) = false →
      (navigation.isCollection = true ↔ trim (side.getText "Multiplicity") = many) ∧
        navigation.targetType = reduceTypeName (trim (side.getText "Type")))

/-- If a verdict on an element keeps a navigation, it has the name of the element and leads where
the element says. -/
def KeepsTarget (reading : DocumentReading) (element : Element)
    (verdict : NavigationReading) : Prop :=
  ∀ navigation, verdict = .kept navigation →
    navigation.name = element.getText "Name" ∧ LeadsAsDeclared reading element navigation

variable {root : Element} {reading : DocumentReading}

/-- The associations of a document are those of its schemas, and it is of the older dialect. -/
theorem associations?_eq_some (hread : readTree root = .ok reading) {associations : Associations}
    (h : reading.associations? = some associations) :
    isModernVersion reading.versions.protocol = false ∧
      associations = Associations.ofSchemas reading.schemaElements := by
  obtain ⟨envelope, -, -, rfl⟩ := readTree_eq_ok hread
  exact DocumentReading.associations?_ofEnvelope_eq_some_iff.mp h

/-- A navigation that an element is read as leads where the element says. -/
theorem leadsAsDeclared_of_readNavigation? (hread : readTree root = .ok reading)
    {navigation : Navigation}
    (h : readNavigation? reading.associations? element = some navigation) :
    LeadsAsDeclared reading element navigation := by
  rw [readNavigation?] at h
  split at h
  · cases h
  · obtain ⟨type, htype, rfl⟩ := Option.map_eq_some_iff.mp h
    rw [navigationType?, isEmpty_trim] at htype
    split at htype
    · next huntyped =>
      obtain ⟨associations, hsome, hresolve⟩ := Option.bind_eq_some_iff.mp htype
      obtain ⟨holder, rfl⟩ := associations?_eq_some hread hsome
      obtain ⟨met, hpick, hrole⟩ := resolve?_eq_some_iff.mp hresolve
      obtain ⟨side, hlast, hside⟩ := Option.map_eq_some_iff.mp hrole
      exact .throughEnd huntyped holder hpick hlast (leads_of_type_eq hside.symm)
    · next htyped =>
      cases htype
      exact .inline (Bool.eq_false_iff.mpr htyped) rfl rfl

/-- Every verdict on a navigation of a type keeps the target. -/
theorem forall₂_keepsTarget (hread : readTree root = .ok reading) {namespaceName : String}
    {read : TypeReading}
    (h : TypeReading.ofElement? reading.associations? namespaceName element = some read) :
    List.Forall₂ (KeepsTarget reading) (childrenNamed "NavigationProperty" element)
      read.navigations := by
  rw [TypeReading.ofElement?] at h
  split at h
  · cases h
  · cases h
    refine (forall₂_judgeNavigations _ [] _).imp fun navigation verdict hkept kept heq => ?_
    have hnavigation := hkept kept heq
    exact ⟨(name_of_readNavigation? hnavigation).1,
      leadsAsDeclared_of_readNavigation? hread hnavigation⟩

/-- Each item of the second list is related to one of the first. -/
theorem exists_of_forall₂ {α β : Type} {R : α → β → Prop} {as : List α} {bs : List β}
    (h : List.Forall₂ R as bs) {b : β} (hmem : b ∈ bs) : ∃ a ∈ as, R a b := by
  induction h with
  | nil => cases hmem
  | cons hab _ ih =>
    obtain rfl | hmem := List.mem_cons.mp hmem
    · exact ⟨_, List.mem_cons_self, hab⟩
    · obtain ⟨a, ha, hrelated⟩ := ih hmem
      exact ⟨a, List.mem_cons_of_mem _ ha, hrelated⟩

/-- A navigation that a type stores is one that a verdict keeps. -/
theorem exists_of_mem_navigations {elements : List Element} {read : TypeReading}
    (h : List.Forall₂ (KeepsTarget reading) elements read.navigations) {navigation : Navigation}
    (hmem : navigation ∈ read.entityType.navigations) :
    ∃ child ∈ elements,
      navigation.name = child.getText "Name" ∧ LeadsAsDeclared reading child navigation := by
  obtain ⟨verdict, hverdict, hkept⟩ := List.mem_filterMap.mp hmem
  obtain ⟨child, hchild, htarget⟩ := exists_of_forall₂ h hverdict
  refine ⟨child, hchild, htarget navigation ?_⟩
  cases verdict with
  | kept found =>
    cases hkept
    rfl
  | _ => cases hkept

/-! ## Targets -/

/-- **Navigations keep their targets,** in every document: each navigation that a type of the model
stores leads where an element of the type says, and to many exactly if it says so, and for every
type that was read the verdicts say which navigation is which element's. Blanks around a reference
do not show in the reduced name, and neither does the wrapping of a reference that is not one to a
collection itself, whatever blanks there are around either. -/
theorem targets_kept :
    (∀ root reading, readTree root = .ok reading →
      (∀ content?, readContent content? = .ok root → parse content? = .ok reading.model) ∧
      (∀ type ∈ reading.model.types, ∀ navigation ∈ type.navigations,
        ∃ schema ∈ reading.schemaElements, ∃ element ∈ findAll "EntityType" schema,
          ∃ child ∈ childrenNamed "NavigationProperty" element,
            navigation.name = child.getText "Name" ∧ LeadsAsDeclared reading child navigation) ∧
      (∀ type ∈ reading.model.types, ∃ read ∈ reading.types, read.entityType = type) ∧
      ∀ read ∈ reading.types,
        ∃ schema ∈ reading.schemaElements, ∃ element ∈ findAll "EntityType" schema,
          TypeReading.ofElement? reading.associations? (schema.getText "Namespace") element =
              some read ∧
            List.Forall₂ (KeepsTarget reading) (childrenNamed "NavigationProperty" element)
              read.navigations) ∧
    ∀ inside before first last after : String,
      (∀ gap ∈ [before, first, last, after], isBlankText gap = true) →
      reduceTypeName (before ++ inside ++ after) = reduceTypeName inside ∧
        (isCollectionType (trim inside) = false →
          reduceTypeName (before ++ collectionOf (first ++ inside ++ last) ++ after) =
            reduceTypeName inside) := by
  refine ⟨fun root reading hread => ?_, fun inside before first last after hgaps => ?_⟩
  · have htypes : ∀ read ∈ reading.types,
        ∃ schema ∈ reading.schemaElements, ∃ element ∈ findAll "EntityType" schema,
          TypeReading.ofElement? reading.associations? (schema.getText "Namespace") element =
              some read ∧
            List.Forall₂ (KeepsTarget reading) (childrenNamed "NavigationProperty" element)
              read.navigations := by
      intro read hmem
      obtain ⟨envelope, -, -, rfl⟩ := readTree_eq_ok hread
      obtain ⟨schema, hschema, hnamed⟩ := DocumentReading.mem_types_ofEnvelope.mp hmem
      obtain ⟨element, helement, htype⟩ := SchemaReading.mem_namedTypes_ofElement.mp hnamed
      exact ⟨schema, hschema, element, helement, htype, forall₂_keepsTarget hread htype⟩
    refine ⟨fun content? hcontent => parse_of_readTree hcontent hread,
      fun type hmem navigation hstored => ?_, fun type => DocumentReading.exists_of_mem_types,
      htypes⟩
    obtain ⟨read, hread, rfl⟩ := DocumentReading.exists_of_mem_types hmem
    obtain ⟨schema, hschema, element, helement, -, hkept⟩ := htypes read hread
    exact ⟨schema, hschema, element, helement, exists_of_mem_navigations hkept hstored⟩
  · simp only [List.forall_mem_cons, List.not_mem_nil, false_implies, implies_true, and_true]
      at hgaps
    obtain ⟨hbefore, hfirst, hlast, hafter⟩ := hgaps
    refine ⟨reduceTypeName_around hbefore hafter inside, fun hsingle => ?_⟩
    have hinside : isCollectionType (trim (first ++ inside ++ last)) = false := by
      rw [trim_around hfirst hlast, hsingle]
    rw [reduceTypeName_around hbefore hafter, reduceTypeName_collectionOf hinside,
      reduceTypeName_around hfirst hlast]

/-- The type of orders in a document of the older dialect, with a navigation to the lines. -/
def linkedOrder : Element :=
  .node "EntityType" [("Name", "Order")] [
    .node "NavigationProperty"
      [("Name", "Lines"), ("Relationship", "A.Link"), ("ToRole", "Line")] []]

/-- The schema of the document, with an association one of whose ends has blanks in its attributes. -/
def linkedSchema : Element :=
  .node "Schema" [("Namespace", "A")] [
    linkedOrder,
    .node "Association" [("Name", "Link")] [
      .node "End" [("Role", "Order"), ("Type", "A.Order"), ("Multiplicity", "1")] [],
      .node "End" [("Role", "Line"), ("Type", " A.Line "), ("Multiplicity", " * ")] []]]

/-- The document. -/
def linkedRoot : Element := .node "Edmx" [("Version", "1.0")] [linkedSchema]

/-- The document as it is read. -/
def linkedReading : DocumentReading := .ofEnvelope linkedRoot [linkedSchema]

theorem targets_kept_lines :
    readTree linkedRoot = .ok linkedReading ∧
      (∃ read ∈ linkedReading.types,
        read.navigations = [.kept ⟨"Lines", "Collection(A.Line)", none⟩] ∧
          List.Forall₂ (KeepsTarget linkedReading) (childrenNamed "NavigationProperty" linkedOrder)
            read.navigations) ∧
      isCollectionType (trim " A.Line ") = false ∧
      reduceTypeName ("\n" ++ collectionOf ("\t" ++ " A.Line " ++ "") ++ " ") =
        reduceTypeName " A.Line " := by
  have hread : readTree linkedRoot = .ok linkedReading := rfl
  obtain ⟨hdocuments, hreferences⟩ := targets_kept
  obtain ⟨-, -, -, htypes⟩ := hdocuments linkedRoot linkedReading hread
  have hlines : ∃ read ∈ linkedReading.types,
      read.navigations = [.kept ⟨"Lines", "Collection(A.Line)", none⟩] := by
    decide
  obtain ⟨read, hmem, hnavigations⟩ := hlines
  obtain ⟨schema, hschema, element, helement, -, hkept⟩ := htypes read hmem
  obtain rfl : schema = linkedSchema := List.mem_singleton.mp hschema
  obtain rfl : element = linkedOrder := List.mem_singleton.mp helement
  refine ⟨hread, ⟨read, hmem, hnavigations, hkept⟩, by decide, ?_⟩
  exact (hreferences " A.Line " "\n" "\t" "" " " (by decide)).2 (by decide)

end ODataExplorer.Csdl
