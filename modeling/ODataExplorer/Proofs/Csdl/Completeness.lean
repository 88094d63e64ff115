import ODataExplorer.Proofs.Csdl.Declared

/-!
Nothing declared is lost, and nothing is kept by accident.

That a model holds nothing but what its document declares would also be true of an empty one. Here
it is said what it holds: of the type elements the first of each name, and of the set elements those
whose type is in the model, wherever it is declared.

Main statement: where no schema is nested in a schema and no container in a container, the model is
complete in this sense, and both lists are in document order (`parse_complete`). With nested schemas
or containers elements would be met twice, or out of order.
-/

namespace ODataExplorer.Csdl

open Xml Text
open Xml.Place (InOrder Apart Separate)

/-! ## What is declared where -/

/-- A place of an entity type element of some schema below an envelope. -/
def DeclaresType (envelope : Element) (place : Place) : Prop :=
  ∃ schema ∈ placesNamed "Schema" (.root envelope), place ∈ placesNamed "EntityType" schema

/-- A place of a set element in some container of some schema below an envelope. -/
def DeclaresSet (envelope : Element) (place : Place) : Prop :=
  ∃ schema ∈ placesNamed "Schema" (.root envelope),
    ∃ container ∈ placesNamed "EntityContainer" schema,
      place ∈ childPlacesNamed "EntitySet" container

/-- All places with a property, each of them once, in document order. -/
structure Lists (P : Place → Prop) (places : List Place) : Prop where
  inOrder : InOrder places
  mem_iff : ∀ place, place ∈ places ↔ P place

/-- No schema below an envelope is nested in another one, and no container in another one. -/
structure Unnested (envelope : Element) : Prop where
  schemas : Apart (placesNamed "Schema" (.root envelope))
  containers : ∀ schema ∈ placesNamed "Schema" (.root envelope),
    Apart (placesNamed "EntityContainer" schema)

theorem unnested_iff {envelope : Element} :
    Unnested envelope ↔ Separate (placesNamed "Schema" (.root envelope)) ∧
      ∀ schema ∈ placesNamed "Schema" (.root envelope),
        Separate (placesNamed "EntityContainer" schema) := by
  rw [← Place.apart_iff_separate (placesNamed_subset "Schema" (.root envelope))]
  simp only [← fun schema => Place.apart_iff_separate (placesNamed_subset "EntityContainer" schema)]
  exact ⟨fun h => ⟨h.schemas, h.containers⟩, fun h => ⟨h.1, h.2⟩⟩

instance (envelope : Element) : Decidable (Unnested envelope) :=
  decidable_of_iff _ unnested_iff.symm

/-- The reading of all schemas below an envelope. -/
def readEnvelope (envelope : Element) : DocumentReading :=
  .ofEnvelope envelope (findAll "Schema" envelope)

/-- A type is what is read from an element of a schema. It has the names of the properties in order,
each of them once and as it is declared first, and as keys the properties that the first key element
refers to. -/
structure EntityType.ReadFrom (type : EntityType) (associations? : Option Associations)
    (schema element : Element) : Prop where
  read : (TypeReading.ofElement? associations? (schema.getText "Namespace") element).map
    (·.entityType) = some type
  name_eq : type.name = element.getText "Name"
  namespaceName_eq : type.namespaceName = schema.getText "Namespace"
  propertyNames_eq : type.propertyNames =
    (((childrenNamed "Property" element).map (·.getText "Name")).filter (!·.isEmpty)).eraseDups
  property : ∀ property ∈ type.properties, ∃ child,
    (childrenNamed "Property" element).find? (·.getText "Name" == property.name) = some child ∧
      readProperty child = property
  keys_eq : type.keys = (((keyReferences element).filterMap (·.get? "Name")).filter
    type.propertyNames.contains).eraseDups

/-- A model has the types and the sets that are declared below an envelope: a type for each name of
a type element, read from the first element of the name, and every set that has a name and a type
among these. -/
structure Model.Complete (model : Model) (envelope : Element) : Prop where
  types : ∃ places, Lists (DeclaresType envelope) places ∧
    model.types.map (·.name) =
      ((places.map (·.element.getText "Name")).filter (!·.isEmpty)).eraseDups ∧
    ∀ type ∈ model.types, ∃ schema ∈ placesNamed "Schema" (.root envelope),
      ∃ place ∈ placesNamed "EntityType" schema,
        places.find? (·.element.getText "Name" == type.name) = some place ∧
          type.ReadFrom (readEnvelope envelope).associations? schema.element place.element
  sets : ∃ places, Lists (DeclaresSet envelope) places ∧
    model.sets = (places.map (SchemaReading.readSet ·.element)).filter fun set =>
      !set.name.isEmpty && (model.types.map (·.name)).contains set.typeName

/-! ## The first reading of each name -/

section

variable {α β : Type} {name : β → String} {nameOf : α → String} {read : α → Option β}

/-- A search by name finds the reading of the item that a search by the names of items finds. -/
theorem any_read_eq
    (hread : ∀ item, (read item).map name = Option.guard (!·.isEmpty) (nameOf item)) {n : String}
    (hne : n ≠ "") (item : α) : (read item).any (name · == n) = (nameOf item == n) := by
  have hany : (read item).any (name · == n) = ((read item).map name).any (· == n) := by
    rw [Option.any_map]
  rw [hany, hread, Option.guard]
  cases hempty : (nameOf item).isEmpty with
  | true =>
    rw [String.isEmpty_iff.mp hempty]
    exact (beq_eq_false_iff_ne.mpr hne.symm).symm
  | false => rfl

/-- When exactly the items with a name can be read, and under their names, the names that are kept
are those of the items. -/
theorem map_firstOfEach_filterMap
    (hread : ∀ item, (read item).map name = Option.guard (!·.isEmpty) (nameOf item))
    (items : List α) :
    (firstOfEach name [] (items.filterMap read)).map name =
      ((items.map nameOf).filter (!·.isEmpty)).eraseDups := by
  have hnames : (items.filterMap read).map name = (items.map nameOf).filter (!·.isEmpty) := by
    rw [List.map_filterMap, ← List.filterMap_eq_filter, List.filterMap_map]
    exact List.filterMap_congr fun item _ => hread item
  rw [map_firstOfEach, hnames]
  exact congrArg List.eraseDups (List.filter_eq_self.mpr fun _ _ => rfl)

/-- What is kept under a name is then the reading of the first item of the name. -/
theorem find?_of_mem_firstOfEach_filterMap
    (hread : ∀ item, (read item).map name = Option.guard (!·.isEmpty) (nameOf item))
    {items : List α} {kept : β} (hkept : kept ∈ firstOfEach name [] (items.filterMap read)) :
    ∃ item, items.find? (nameOf · == name kept) = some item ∧ read item = some kept := by
  have hfound := find?_of_mem_firstOfEach name hkept
  rw [List.find?_filterMap] at hfound
  obtain ⟨item, hitem, hitemRead⟩ := Option.bind_eq_some_iff.mp hfound
  have hne : name kept ≠ "" := by
    have hguard := hread item
    rw [hitemRead, Option.map_some, eq_comm, Option.guard_eq_some_iff, Bool.not_eq_true'] at hguard
    rw [← hguard.1]
    exact String.isEmpty_eq_false_iff.mp hguard.2
  rw [funext (any_read_eq hread hne)] at hitem
  exact ⟨item, hitem, hitemRead⟩

theorem map_guard (name : β → String) (item : β) :
    (Option.guard (fun item => !(name item).isEmpty) item).map name =
      Option.guard (!·.isEmpty) (name item) := by
  unfold Option.guard
  dsimp only
  split
  · rfl
  · rfl

end

/-! ## Types -/

/-- The properties of a type are those of its elements that have a name, the first of each. -/
theorem readProperties_eq_firstOfEach (element : Element) :
    readProperties element = firstOfEach Property.name []
      ((childrenNamed "Property" element).filterMap fun child =>
        Option.guard (!·.name.isEmpty) (readProperty child)) := by
  rw [readProperties, keepProperties_eq, List.nil_append, ← List.filterMap_eq_filter,
    List.filterMap_map]
  rfl

/-- A type element is read as `EntityType.ReadFrom` says. -/
theorem TypeReading.readFrom {associations? : Option Associations} {schema element : Element}
    {reading : TypeReading} (h : TypeReading.ofElement? associations?
      (schema.getText "Namespace") element = some reading) :
    reading.entityType.ReadFrom associations? schema element := by
  have hread := congrArg (Option.map TypeReading.entityType) h
  rw [TypeReading.ofElement?] at h
  split at h
  · cases h
  · cases h
    have hnamed : ∀ child : Element,
        (Option.guard (!·.name.isEmpty) (readProperty child)).map Property.name =
          Option.guard (!·.isEmpty) (child.getText "Name") :=
      fun child => map_guard Property.name (readProperty child)
    refine ⟨hread, rfl, rfl, ?_, ?_, ?_⟩
    · show (readProperties element).map Property.name = _
      rw [readProperties_eq_firstOfEach]
      exact map_firstOfEach_filterMap hnamed _
    · intro property hproperty
      have hkept : property ∈ readProperties element := hproperty
      rw [readProperties_eq_firstOfEach] at hkept
      obtain ⟨child, hchild, hguard⟩ := find?_of_mem_firstOfEach_filterMap hnamed hkept
      exact ⟨child, hchild, (Option.guard_eq_some_iff.mp hguard).1⟩
    · show (readKeys _ element).filterMap KeyReading.kept? = _
      rw [readKeys, filterMap_judgeKeys, ← List.map_id (firstOfEach id [] _), map_firstOfEach,
        List.map_id]
      exact congrArg List.eraseDups (List.filter_eq_self.mpr fun _ _ => rfl)

/-- The type elements below an envelope, each with the schema in which it stands. -/
def declarations (envelope : Element) : List (Place × Place) :=
  (placesNamed "Schema" (.root envelope)).flatMap fun schema =>
    (placesNamed "EntityType" schema).map (schema, ·)

/-- What a declaration is read as. -/
def readDeclaration? (envelope : Element) (declaration : Place × Place) : Option EntityType :=
  (TypeReading.ofElement? (readEnvelope envelope).associations?
    (declaration.1.element.getText "Namespace") declaration.2.element).map (·.entityType)

/-- A declaration is read under its name, if it has one. -/
theorem name_readDeclaration? (envelope : Element) (declaration : Place × Place) :
    (readDeclaration? envelope declaration).map EntityType.name =
      Option.guard (!·.isEmpty) (declaration.2.element.getText "Name") := by
  rw [readDeclaration?, TypeReading.ofElement?, Option.guard]
  by_cases hempty : (declaration.2.element.getText "Name").isEmpty = true
  · rw [if_pos hempty, if_neg (by rw [hempty]; exact Bool.false_ne_true)]
    rfl
  · rw [if_neg hempty, if_pos (by rw [Bool.eq_false_iff.mpr hempty]; rfl)]
    rfl

/-- The schemas of a reading are read at their places. -/
theorem schemas_readEnvelope (envelope : Element) :
    (readEnvelope envelope).schemas = (placesNamed "Schema" (.root envelope)).map fun schema =>
      SchemaReading.ofElement (readEnvelope envelope).associations? schema.element := by
  rw [readEnvelope, DocumentReading.schemas_ofEnvelope]
  generalize (DocumentReading.ofEnvelope _ _).associations? = associations?
  have hschemas : (placesNamed "Schema" (.root envelope)).map (·.element) =
      findAll "Schema" envelope := map_element_placesNamed "Schema" (.root envelope)
  rw [← hschemas, List.map_map]
  rfl

/-- The types of a model are the first of each name among the declarations. -/
theorem keptTypes_readEnvelope (envelope : Element) :
    (readEnvelope envelope).keptTypes = firstOfEach EntityType.name []
      ((declarations envelope).filterMap (readDeclaration? envelope)) := by
  rw [DocumentReading.keptTypes_eq, DocumentReading.types, schemas_readEnvelope, declarations,
    List.flatMap_map, List.map_flatMap, List.filterMap_flatMap]
  refine congrArg (firstOfEach EntityType.name []) (List.flatMap_congr fun schema _ => ?_)
  rw [SchemaReading.namedTypes, SchemaReading.ofElement, List.filterMap_map, List.map_filterMap,
    ← map_element_placesNamed, List.filterMap_map, List.filterMap_map]
  rfl

/-- The places of the declarations are those of all type elements, in document order. -/
theorem lists_declarations {envelope : Element} (h : Unnested envelope) :
    Lists (DeclaresType envelope) ((declarations envelope).map (·.2)) := by
  have hplaces : (declarations envelope).map (·.2) =
      (placesNamed "Schema" (.root envelope)).flatMap (placesNamed "EntityType") := by
    rw [declarations, List.map_flatMap]
    refine List.flatMap_congr fun schema _ => ?_
    rw [List.map_map]
    exact List.map_id _
  rw [hplaces]
  refine ⟨?_, fun place => List.mem_flatMap⟩
  exact Place.inOrder_flatMap (placesNamed_subset "Schema" _) (inOrder_placesNamed "Schema" _)
    h.schemas fun schema _ =>
      ⟨inOrder_placesNamed "EntityType" schema, placesNamed_subset "EntityType" schema⟩

/-- **The types of a model are complete.** -/
theorem types_complete {envelope : Element} (h : Unnested envelope) :
    ∃ places, Lists (DeclaresType envelope) places ∧
      (readEnvelope envelope).keptTypes.map (·.name) =
        ((places.map (·.element.getText "Name")).filter (!·.isEmpty)).eraseDups ∧
      ∀ type ∈ (readEnvelope envelope).keptTypes,
        ∃ schema ∈ placesNamed "Schema" (.root envelope),
          ∃ place ∈ placesNamed "EntityType" schema,
            places.find? (·.element.getText "Name" == type.name) = some place ∧
              type.ReadFrom (readEnvelope envelope).associations? schema.element place.element := by
  refine ⟨_, lists_declarations h, ?_, fun type htype => ?_⟩
  · rw [keptTypes_readEnvelope, map_firstOfEach_filterMap (name_readDeclaration? envelope),
      List.map_map]
    rfl
  · rw [keptTypes_readEnvelope] at htype
    obtain ⟨⟨schema, place⟩, hfound, hread⟩ :=
      find?_of_mem_firstOfEach_filterMap (name_readDeclaration? envelope) htype
    obtain ⟨schema, hschema, hmem⟩ := List.mem_flatMap.mp (List.mem_of_find?_eq_some hfound)
    obtain ⟨place, hplace, heq⟩ := List.mem_map.mp hmem
    cases heq
    obtain ⟨reading, hreading, rfl⟩ := Option.map_eq_some_iff.mp hread
    refine ⟨schema, hschema, place, hplace, ?_, TypeReading.readFrom hreading⟩
    rw [List.find?_map]
    exact congrArg (Option.map Prod.snd) hfound

/-! ## Sets -/

/-- The set elements of a schema, container by container. -/
def setPlaces (schema : Place) : List Place :=
  (placesNamed "EntityContainer" schema).flatMap (childPlacesNamed "EntitySet")

theorem map_readSet_setPlaces (schema : Place) :
    (setPlaces schema).map (SchemaReading.readSet ·.element) =
      SchemaReading.readSets schema.element := by
  rw [setPlaces, SchemaReading.readSets, List.map_flatMap, ← map_element_placesNamed,
    List.flatMap_map]
  refine List.flatMap_congr fun container _ => ?_
  rw [← map_element_childPlacesNamed, List.map_map]
  rfl

/-- The set elements of all schemas are met in document order. -/
theorem lists_setPlaces {envelope : Element} (h : Unnested envelope) :
    Lists (DeclaresSet envelope)
      ((placesNamed "Schema" (.root envelope)).flatMap setPlaces) := by
  refine ⟨?_, fun place => ?_⟩
  · refine Place.inOrder_flatMap (placesNamed_subset "Schema" _) (inOrder_placesNamed "Schema" _)
      h.schemas fun schema hschema => ⟨?_, ?_⟩
    · exact Place.inOrder_flatMap (placesNamed_subset "EntityContainer" schema)
        (inOrder_placesNamed "EntityContainer" schema) (h.containers schema hschema)
        fun container _ => ⟨inOrder_childPlacesNamed "EntitySet" container,
          childPlacesNamed_subset "EntitySet" container⟩
    · intro place hplace
      obtain ⟨container, hcontainer, hchild⟩ := List.mem_flatMap.mp hplace
      exact Place.descendants_subset (placesNamed_subset "EntityContainer" schema hcontainer)
        (childPlacesNamed_subset "EntitySet" container hchild)
  · simp only [setPlaces, List.mem_flatMap, DeclaresSet]

/-- **The sets of a model are complete.** -/
theorem sets_complete {envelope : Element} (h : Unnested envelope) :
    ∃ places, Lists (DeclaresSet envelope) places ∧
      (readEnvelope envelope).model.sets =
        (places.map (SchemaReading.readSet ·.element)).filter fun set =>
          !set.name.isEmpty &&
            ((readEnvelope envelope).keptTypes.map (·.name)).contains set.typeName := by
  have hsets : (readEnvelope envelope).schemas.flatMap (·.sets) =
      ((placesNamed "Schema" (.root envelope)).flatMap setPlaces).map
        (SchemaReading.readSet ·.element) := by
    rw [schemas_readEnvelope, List.flatMap_map, List.map_flatMap]
    exact List.flatMap_congr fun schema _ => (map_readSet_setPlaces schema).symm
  refine ⟨_, lists_setPlaces h, ?_⟩
  show (DocumentReading.setPlacements _).filterMap Placement.kept? = _
  rw [DocumentReading.setPlacements, filterMap_placeSet, hsets]
  refine List.filter_congr fun set _ => ?_
  rw [Bool.not_or, Bool.not_not]

/-! ## Documents -/

/-- **Nothing declared is lost, and nothing is kept by accident.** A text that has a model is read
as a tree with an envelope. Where no schema below the envelope is nested in another one, and no
container in another one, the model is complete. -/
theorem parse_complete {content? : Option String} {model : Model}
    (h : parse content? = .ok model) :
    ∃ root envelope, readContent content? = .ok root ∧ findEnvelope root = .ok envelope ∧
      (Unnested envelope → model.Complete envelope) := by
  obtain ⟨root, reading, hroot, htree, rfl⟩ := parse_eq_ok h
  obtain ⟨envelope, henvelope, -, rfl⟩ := readTree_eq_ok htree
  exact ⟨root, envelope, hroot, henvelope, fun hunnested =>
    ⟨types_complete hunnested, sets_complete hunnested⟩⟩

/-- A document whose first schema has a set with a type of the second one and a set without a type.
Both schemas have a type of one name. -/
def forwardSets : String :=
  "<Edmx><Schema Namespace='A'><EntityContainer><EntitySet Name='X' EntityType='B.T'/>" ++
    "<EntitySet Name='Y' EntityType='U'/></EntityContainer><EntityType Name='S'/></Schema>" ++
    "<Schema Namespace='B'><EntityType Name='T'/><EntityType Name='S'/></Schema></Edmx>"

theorem parse_complete_forwardSets :
    ∃ model envelope, parse (some forwardSets) = .ok model ∧ Unnested envelope ∧
      model.Complete envelope ∧
      model.types.map (fun type => (type.name, type.namespaceName)) = [("S", "A"), ("T", "B")] ∧
      model.sets = [⟨"X", "B.T"⟩] := by
  have hread : (readContent (some forwardSets)).toOption.map (fun root =>
      ((findEnvelope root).toOption.map (decide <| Unnested ·), (readTree root).toOption.map fun
        reading => (reading.model.types.map fun type => (type.name, type.namespaceName),
          reading.model.sets))) =
      some (some true, some ([("S", "A"), ("T", "B")], [⟨"X", "B.T"⟩])) := by
    decide +kernel
  cases hroot : readContent (some forwardSets) with
  | error reason =>
    rw [hroot] at hread
    cases hread
  | ok root =>
    rw [hroot] at hread
    obtain ⟨hunnested, hparts⟩ := Prod.mk.inj (Option.some.inj hread)
    cases htree : readTree root with
    | error reason =>
      rw [htree] at hparts
      cases hparts
    | ok reading =>
      rw [htree] at hparts
      obtain ⟨htypes, hsets⟩ := Prod.mk.inj (Option.some.inj hparts)
      have hparse := parse_of_readTree hroot htree
      obtain ⟨root', envelope, hroot', henvelope, hcomplete⟩ := parse_complete hparse
      cases hroot.symm.trans hroot'
      rw [henvelope] at hunnested
      have hflat := of_decide_eq_true (Option.some.inj hunnested)
      exact ⟨reading.model, envelope, hparse, hflat, hcomplete hflat, htypes, hsets⟩

end ODataExplorer.Csdl
