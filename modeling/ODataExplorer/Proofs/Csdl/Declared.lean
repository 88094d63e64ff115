import ODataExplorer.Proofs.Csdl.Kept
import ODataExplorer.Proofs.Csdl.Structure

/-!
What a document declares, and what its model keeps of that.

A model is an abridgement: every type in it is declared by an element of its own, every set by
another one, and what a type holds stands below the element that declares it. Nothing is made up and
nothing changes places; parts that cannot be used are left out (`abridges_ofEnvelope`).
-/

namespace ODataExplorer.Csdl

open Xml Text

variable {associations? : Option Associations} {element : Element}

/-! ## Declared navigations -/

/-- A navigation as declared. Its type is empty where the element has none, or a blank one. -/
def declaredNavigation (element : Element) : Navigation where
  name := element.getText "Name"
  type := trim (element.getText "Type")
  constraint? := readConstraint? element

/-- The navigations of a type element as declared. -/
def declaredNavigations (type : Element) : List Navigation :=
  (childrenNamed "NavigationProperty" type).map declaredNavigation

/-- An element is read as the navigation it declares, or with the type that associations give. -/
theorem readNavigation?_eq (associations? : Option Associations) (element : Element) :
    readNavigation? associations? element =
      if (declaredNavigation element).name.isEmpty then none
      else if (declaredNavigation element).type.isEmpty then
        (navigationType? associations? element).map fun type =>
          { declaredNavigation element with type }
      else some (declaredNavigation element) := by
  unfold readNavigation? navigationType? declaredNavigation
  dsimp only
  by_cases hname : (element.getText "Name").isEmpty = true
  · rw [if_pos hname, if_pos hname]
  · rw [if_neg hname, if_neg hname]
    by_cases htype : (trim (element.getText "Type")).isEmpty = true
    · rw [if_pos htype, if_pos htype]
    · rw [if_neg htype, if_neg htype, Option.map_some]

/-- What is read has the name that is declared. -/
theorem name_of_readNavigation? {navigation : Navigation}
    (h : readNavigation? associations? element = some navigation) :
    navigation.name = (declaredNavigation element).name ∧
      (declaredNavigation element).name.isEmpty = false := by
  rw [readNavigation?_eq] at h
  split at h
  · cases h
  · next hname =>
    refine ⟨?_, Bool.eq_false_iff.mpr hname⟩
    split at h
    · obtain ⟨type, -, rfl⟩ := Option.map_eq_some_iff.mp h
      rfl
    · cases h
      rfl

/-- The names that are read are declared, in the same order. -/
theorem names_sublist (associations? : Option Associations) (elements : List Element) :
    ((elements.filterMap (readNavigation? associations?)).map (·.name)).Sublist
      (((elements.map declaredNavigation).filter (!·.name.isEmpty)).map (·.name)) := by
  induction elements with
  | nil => exact .slnil
  | cons element rest ih =>
    rw [List.map_cons, List.filter_cons]
    cases hread : readNavigation? associations? element with
    | none =>
      rw [List.filterMap_cons_none hread]
      split
      · exact ih.cons _
      · exact ih
    | some navigation =>
      obtain ⟨hname, hnamed⟩ := name_of_readNavigation? hread
      rw [List.filterMap_cons_some hread, hnamed, List.map_cons, hname]
      exact ih.cons_cons _

/-! ## Declared types -/

/-- The types of a schema with the elements that declare them. -/
def declaredTypes (associations? : Option Associations) (schema : Element) :
    List (Element × EntityType) :=
  (findAll "EntityType" schema).filterMap fun element =>
    (TypeReading.ofElement? associations? (schema.getText "Namespace") element).map fun reading =>
      (element, reading.entityType)

theorem map_entityType_namedTypes (associations? : Option Associations) (schema : Element) :
    (SchemaReading.ofElement associations? schema).namedTypes.map (·.entityType) =
      (declaredTypes associations? schema).map (·.2) := by
  rw [SchemaReading.namedTypes, SchemaReading.ofElement, List.filterMap_map, List.map_filterMap,
    declaredTypes, List.map_filterMap]
  refine List.filterMap_congr fun element _ => ?_
  rw [Option.map_map]
  rfl

theorem name_of_mem_declaredTypes {schema : Element} {declared : Element × EntityType}
    (h : declared ∈ declaredTypes associations? schema) :
    declared.1.getText "Name" = declared.2.name ∧ declared.2.name.isEmpty = false := by
  obtain ⟨element, -, hread⟩ := List.mem_filterMap.mp h
  obtain ⟨reading, hreading, rfl⟩ := Option.map_eq_some_iff.mp hread
  rw [TypeReading.ofElement?] at hreading
  split at hreading
  · cases hreading
  · next hname =>
    cases hreading
    exact ⟨rfl, Bool.eq_false_iff.mpr hname⟩

/-- The types of a schema are declared by those of its type elements that have a name. -/
theorem map_fst_declaredTypes (associations? : Option Associations) (schema : Element) :
    (declaredTypes associations? schema).map (·.1) =
      (findAll "EntityType" schema).filter fun element => !(element.getText "Name").isEmpty := by
  rw [declaredTypes, List.map_filterMap, ← List.filterMap_eq_filter]
  refine List.filterMap_congr fun element _ => ?_
  rw [Option.map_map, TypeReading.ofElement?, Option.guard]
  cases (element.getText "Name").isEmpty <;> rfl

/-- The type elements of a schema that have a name. -/
def namedTypeElements (schema : Element) : List Element :=
  (findAll "EntityType" schema).filter fun element => !(element.getText "Name").isEmpty

/-- What has a name is read, one by one. -/
theorem forall₂_filterMap {α β : Type} {p : α → Bool} {read : α → Option β}
    (h : ∀ a, (read a).isSome = p a) :
    ∀ items : List α,
      List.Forall₂ (fun a b => read a = some b) (items.filter p) (items.filterMap read)
  | [] => .nil
  | item :: rest => by
    have ih := forall₂_filterMap h rest
    rw [List.filter_cons, ← h item]
    cases hread : read item with
    | none =>
      rw [List.filterMap_cons_none hread]
      exact ih
    | some b =>
      rw [List.filterMap_cons_some hread]
      exact .cons hread ih

/-- A schema has a type for each of its type elements that have a name. -/
theorem forall₂_namedTypes (associations? : Option Associations) (schema : Element) :
    List.Forall₂
      (fun element read =>
        TypeReading.ofElement? associations? (schema.getText "Namespace") element = some read)
      (namedTypeElements schema) (SchemaReading.ofElement associations? schema).namedTypes := by
  rw [SchemaReading.namedTypes, SchemaReading.ofElement, List.filterMap_map]
  refine forall₂_filterMap (fun element => ?_) _
  rw [TypeReading.ofElement?]
  cases (element.getText "Name").isEmpty <;> rfl

/-- The types of a model are the first of each name among those declared. -/
theorem keptTypes_ofEnvelope (envelope : Element) (schemas : List Element) :
    (DocumentReading.ofEnvelope envelope schemas).keptTypes =
      (firstOfEach (·.2.name) [] (schemas.flatMap (declaredTypes
        (DocumentReading.ofEnvelope envelope schemas).associations?))).map (·.2) := by
  rw [DocumentReading.keptTypes_eq, DocumentReading.types, DocumentReading.schemas_ofEnvelope,
    List.flatMap_map, List.map_flatMap]
  simp only [map_entityType_namedTypes]
  rw [← List.map_flatMap]
  exact firstOfEach_map EntityType.name Prod.snd (fun _ => rfl) [] _

/-! ## Abridgements -/

/-- A type has the name of an element, and nothing besides what stands below the element: some of
the properties and keys, as they are declared, and navigations with some of the declared names. -/
structure EntityType.Abridges (type : EntityType) (element : Element) : Prop where
  name_eq : type.name = element.getText "Name"
  properties : type.properties.Sublist ((childrenNamed "Property" element).map readProperty)
  keys : type.keys.Sublist ((keyReferences element).filterMap (·.get? "Name"))
  navigations : (type.navigations.map (·.name)).Sublist
    ((declaredNavigations element).map (·.name))

/-- A model has the namespaces of all schemas, and some of the types and sets that they declare. -/
structure Model.Abridges (model : Model) (schemas : List Element) : Prop where
  namespaces_eq : model.namespaces = schemas.map (·.getText "Namespace")
  types : ∃ elements, elements.Sublist (schemas.flatMap (findAll "EntityType")) ∧
    List.Forall₂ EntityType.Abridges model.types elements
  sets : model.sets.Sublist (schemas.flatMap SchemaReading.readSets)

/-- A type as it was read abridges its element. -/
theorem TypeReading.abridges {namespaceName : String} {reading : TypeReading}
    (h : TypeReading.ofElement? associations? namespaceName element = some reading) :
    reading.entityType.Abridges element := by
  rw [TypeReading.ofElement?] at h
  split at h
  · cases h
  · cases h
    refine ⟨rfl, ?_, ?_, ?_⟩
    · show (readProperties element).Sublist _
      rw [readProperties, keepProperties_eq, List.nil_append]
      exact (firstOfEach_sublist _ _ _).trans List.filter_sublist
    · show ((readKeys _ element).filterMap KeyReading.kept?).Sublist _
      rw [readKeys, filterMap_judgeKeys]
      exact (firstOfEach_sublist _ _ _).trans List.filter_sublist
    · show (((readNavigations _ element).filterMap NavigationReading.kept?).map _).Sublist _
      rw [readNavigations, filterMap_judgeNavigations]
      have hkept := (firstOfEach_sublist Navigation.name []
        ((childrenNamed "NavigationProperty" element).filterMap
          (readNavigation? associations?))).map Navigation.name
      have hdeclared := (List.filter_sublist (p := fun n => !n.name.isEmpty)
        (l := declaredNavigations element)).map Navigation.name
      exact (hkept.trans (names_sublist associations? _)).trans hdeclared

theorem abridges_of_mem_declaredTypes {schema : Element} {declared : Element × EntityType}
    (h : declared ∈ declaredTypes associations? schema) : declared.2.Abridges declared.1 := by
  obtain ⟨element, -, hread⟩ := List.mem_filterMap.mp h
  obtain ⟨reading, hreading, rfl⟩ := Option.map_eq_some_iff.mp hread
  exact TypeReading.abridges hreading

/-- Linking keeps a set as it is or leaves it out. -/
theorem filterMap_placeSet (typeNames : List String) (sets : List EntitySet) :
    (sets.map (placeSet typeNames)).filterMap Placement.kept? =
      sets.filter fun set => !(set.name.isEmpty || !typeNames.contains set.typeName) := by
  rw [List.filterMap_map, ← List.filterMap_eq_filter]
  refine List.filterMap_congr fun set _ => ?_
  rw [Function.comp_apply, placeSet, Option.guard]
  cases set.name.isEmpty || !typeNames.contains set.typeName <;> rfl

/-- **The model of an envelope abridges its schemas.** -/
theorem abridges_ofEnvelope (envelope : Element) (schemas : List Element) :
    (DocumentReading.ofEnvelope envelope schemas).model.Abridges schemas where
  namespaces_eq := by
    show (DocumentReading.ofEnvelope envelope schemas).schemas.map (·.namespaceName) = _
    rw [DocumentReading.schemas_ofEnvelope, List.map_map]
    rfl
  types := by
    have hkept := firstOfEach_sublist (·.2.name) [] (schemas.flatMap (declaredTypes
      (DocumentReading.ofEnvelope envelope schemas).associations?))
    have htypes := keptTypes_ofEnvelope envelope schemas
    generalize firstOfEach _ _ _ = kept at hkept htypes
    refine ⟨kept.map (·.1), ?_, ?_⟩
    · refine (hkept.map Prod.fst).trans ?_
      rw [List.map_flatMap]
      simp only [map_fst_declaredTypes]
      rw [← List.filter_flatMap]
      exact List.filter_sublist
    · show List.Forall₂ _ (DocumentReading.keptTypes _) _
      rw [htypes, List.forall₂_map_left_iff, List.forall₂_map_right_iff, List.forall₂_same]
      intro declared hmem
      obtain ⟨schema, -, hdeclared⟩ := List.mem_flatMap.mp (hkept.subset hmem)
      exact abridges_of_mem_declaredTypes hdeclared
  sets := by
    show ((DocumentReading.ofEnvelope envelope schemas).setPlacements.filterMap
      Placement.kept?).Sublist _
    rw [DocumentReading.setPlacements, filterMap_placeSet, DocumentReading.schemas_ofEnvelope,
      List.flatMap_map]
    exact List.filter_sublist

end ODataExplorer.Csdl
