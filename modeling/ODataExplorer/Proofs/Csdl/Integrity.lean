import ODataExplorer.Proofs.Csdl.AssociationRole
import ODataExplorer.Proofs.Csdl.Kept
import ODataExplorer.Proofs.Csdl.Structure

/-!
The integrity of a model.

Records of a model refer to each other by name. `Model.Intact` says that every such name leads to
one record: a key to a property of its type, a set to a type, a name to the one record that bears
it. Main statement: the model of every document is intact (`DocumentReading.intact_model`), whatever
the document leaves out, repeats or refers to in vain.

Each pass over the document gives its share, and none needs the others: the rule by which records
are kept makes names distinct (`nodup_firstOfEach`), reading a type looks up its keys among its own
properties, and linking drops the sets whose type is not in the finished list.
-/

namespace ODataExplorer.Csdl

open Xml Text

/-- A type whose names lead to one record each. -/
structure EntityType.Intact (type : EntityType) : Prop where
  named : type.name ≠ ""
  keys_distinct : type.keys.Nodup
  keys_declared : ∀ key ∈ type.keys, key ∈ type.propertyNames
  properties_distinct : (type.properties.map (·.name)).Nodup
  property_under_name : ∀ property ∈ type.properties,
    type.properties.find? (·.name == property.name) = some property
  navigations_distinct : (type.navigations.map (·.name)).Nodup
  navigation_under_name : ∀ navigation ∈ type.navigations,
    type.navigations.find? (·.name == navigation.name) = some navigation
  navigations_typed : ∀ navigation ∈ type.navigations,
    navigation.type ≠ "" ∧ IsTrimmed navigation.type

/-- A model whose names lead to one record each. -/
structure Model.Intact (model : Model) : Prop where
  types_intact : ∀ type ∈ model.types, type.Intact
  types_distinct : (model.types.map (·.name)).Nodup
  sets_named : ∀ set ∈ model.sets, set.name ≠ ""
  sets_linked : ∀ set ∈ model.sets, (model.types.map (·.name)).count set.typeName = 1
  /-- A name has a type exactly when some set has the name. -/
  typeOfSet_isSome : ∀ name, (model.typeOfSet? name).isSome ↔ ∃ set ∈ model.sets, set.name = name
  /-- Of the sets with a name the first one counts. -/
  typeOfSet_eq : ∀ name set, model.sets.find? (·.name == name) = some set →
    ∃ type ∈ model.types, type.name = set.typeName ∧ model.typeOfSet? name = some type
  namespace_listed : model.namespaceName ∈ model.namespaces

/-! ## The types of navigations -/

/-- A reference to a type that says something and is trimmed. -/
def IsReference (type : String) : Prop := type ≠ "" ∧ IsTrimmed type

/-- A usable end leads to a type. -/
theorem isReference_endType {element : Element} (h : isUsableEnd element = true) :
    IsReference (endType element) := by
  have hblank : isBlankText (element.getText "Type") = false := by
    rw [isUsableEnd, Bool.and_eq_true, Bool.not_eq_true'] at h
    simpa only [Bool.not_eq_true'] using h.2
  rw [endType]
  split
  · refine ⟨fun hempty => ?_, isTrimmed_collectionOf _⟩
    have := congrArg String.length hempty
    simp only [collectionOf, String.length_append] at this
    exact absurd this (by simp)
  · refine ⟨fun hempty => ?_, isTrimmed_trim _⟩
    rw [← isEmpty_trim, hempty] at hblank
    cases hblank

/-- Whatever associations answer is a type. -/
theorem isReference_of_resolve? {schemas : List Element} {relationship role target : String}
    (h : (Associations.ofSchemas schemas).resolve? relationship role = some target) :
    IsReference target := by
  obtain ⟨met, hpick, hrole⟩ := resolve?_eq_some_iff.mp h
  obtain ⟨side, hfind, rfl⟩ := Option.map_eq_some_iff.mp hrole
  have hmem := List.mem_reverse.mp (List.mem_of_find?_eq_some hfind)
  exact isReference_endType (isUsableEnd_of_mem (isUsable_of_pick? hpick) hmem)

/-- The associations of a document, or none in a modern one. -/
def OfDocument (associations? : Option Associations) : Prop :=
  ∀ associations ∈ associations?, ∃ schemas, associations = Associations.ofSchemas schemas

theorem isReference_of_navigationType? {associations? : Option Associations}
    (hof : OfDocument associations?) {element : Element} {type : String}
    (h : navigationType? associations? element = some type) : IsReference type := by
  rw [navigationType?] at h
  split at h
  · obtain ⟨associations, hsome, hresolve⟩ := Option.bind_eq_some_iff.mp h
    obtain ⟨schemas, rfl⟩ := hof associations hsome
    exact isReference_of_resolve? hresolve
  · next hne =>
    cases h
    exact ⟨fun hempty => hne (by rw [hempty]; rfl), isTrimmed_trim _⟩

/-- The associations of an envelope are read from its schemas, or are none. -/
theorem ofDocument_ofEnvelope (envelope : Element) (schemas : List Element) :
    OfDocument (DocumentReading.ofEnvelope envelope schemas).associations? := by
  intro associations hsome
  exact ⟨schemas, (DocumentReading.associations?_ofEnvelope_eq_some_iff.mp hsome).2⟩

/-! ## Types -/

/-- A type is intact as soon as it is read. -/
theorem TypeReading.intact_entityType {associations? : Option Associations}
    (hof : OfDocument associations?) {namespaceName : String} {element : Element}
    {reading : TypeReading}
    (h : TypeReading.ofElement? associations? namespaceName element = some reading) :
    reading.entityType.Intact := by
  rw [TypeReading.ofElement?] at h
  split at h
  · cases h
  · next hname =>
    cases h
    have hproperties : ((readProperties element).map (·.name)).Nodup := by
      rw [readProperties, keepProperties_eq]
      exact nodup_firstOfEach Property.name _ _
    have hnavigations :=
      filterMap_judgeNavigations associations? [] (childrenNamed "NavigationProperty" element)
    have hdistinct : ((((readNavigations associations? element).filterMap
        NavigationReading.kept?)).map (·.name)).Nodup := by
      rw [readNavigations, hnavigations]
      exact nodup_firstOfEach Navigation.name _ _
    have hkeys := filterMap_judgeKeys ((readProperties element).map (·.name)) []
      (keyReferences element)
    exact {
      named := fun hempty => hname (String.isEmpty_iff.mpr hempty)
      keys_distinct := by
        show ((readKeys _ element).filterMap KeyReading.kept?).Nodup
        rw [readKeys, hkeys, ← List.map_id (firstOfEach _ _ _)]
        exact nodup_firstOfEach id _ _
      keys_declared := fun key hkey => by
        change key ∈ (readKeys _ element).filterMap KeyReading.kept? at hkey
        rw [readKeys, hkeys] at hkey
        have hmem := (firstOfEach_sublist id _ _).subset hkey
        exact List.contains_iff_mem.mp (List.mem_filter.mp hmem).2
      properties_distinct := hproperties
      property_under_name := fun property hmem => find?_name_of_mem hproperties hmem
      navigations_distinct := hdistinct
      navigation_under_name := fun navigation hmem => find?_name_of_mem hdistinct hmem
      navigations_typed := fun navigation hmem => by
        change navigation ∈ (readNavigations _ element).filterMap NavigationReading.kept? at hmem
        rw [readNavigations, hnavigations] at hmem
        obtain ⟨source, -, hread⟩ :=
          List.mem_filterMap.mp ((firstOfEach_sublist Navigation.name _ _).subset hmem)
        rw [readNavigation?] at hread
        split at hread
        · cases hread
        · obtain ⟨type, htype, rfl⟩ := Option.map_eq_some_iff.mp hread
          exact isReference_of_navigationType? hof htype }

/-! ## The leading namespace -/

/-- What leads is what led before or one of the names. -/
theorem leadingNamespace_mem (count : String → Nat) :
    ∀ (best : String × Nat) (names : List String),
      leadingNamespace count best names ∈ best.1 :: names
  | _, [] => List.mem_cons_self
  | best, name :: rest => by
    rw [leadingNamespace]
    split
    · exact List.mem_cons_of_mem _ (leadingNamespace_mem count (name, count name) rest)
    · rcases List.mem_cons.mp (leadingNamespace_mem count best rest) with h | h
      · exact h ▸ List.mem_cons_self
      · exact List.mem_cons_of_mem _ (List.mem_cons_of_mem _ h)

/-- The dominant namespace is that of some schema. -/
theorem dominantNamespace_mem {readings : List SchemaReading} (h : readings ≠ []) :
    dominantNamespace readings ∈ readings.map (·.namespaceName) := by
  obtain ⟨first, rest, rfl⟩ := List.exists_cons_of_ne_nil h
  rcases List.mem_cons.mp (leadingNamespace_mem (typeCount (first :: rest))
    (first.namespaceName, 0) ((first :: rest).map (·.namespaceName))) with h | h
  · rw [dominantNamespace, List.map_cons, List.headD_cons, ← List.map_cons, h]
    exact List.mem_cons_self
  · exact h

/-! ## Models -/

namespace DocumentReading

/-- A set of the model has a name and a type that is in the model. -/
theorem mem_sets {reading : DocumentReading} {set : EntitySet} (h : set ∈ reading.model.sets) :
    set.name ≠ "" ∧ set.typeName ∈ reading.model.types.map (·.name) := by
  change set ∈ reading.setPlacements.filterMap Placement.kept? at h
  obtain ⟨placement, hplacement, hkept⟩ := List.mem_filterMap.mp h
  obtain ⟨declared, -, rfl⟩ := List.mem_map.mp hplacement
  rw [placeSet] at hkept
  split at hkept
  · cases hkept
  · next hgood =>
    cases hkept
    rw [Bool.or_eq_true, not_or, Bool.not_eq_true', Bool.not_eq_false] at hgood
    exact ⟨fun hempty => hgood.1 (by rw [hempty]; rfl), List.contains_iff_mem.mp hgood.2⟩

/-- A type of the model is one that was read. -/
theorem exists_of_mem_types {reading : DocumentReading} {type : EntityType}
    (h : type ∈ reading.model.types) : ∃ read ∈ reading.types, read.entityType = type := by
  change type ∈ reading.keptTypes at h
  rw [keptTypes_eq] at h
  exact List.mem_map.mp ((firstOfEach_sublist EntityType.name _ _).subset h)

/-- The types of the model have distinct names. -/
theorem nodup_types (reading : DocumentReading) : (reading.model.types.map (·.name)).Nodup := by
  show (reading.keptTypes.map (·.name)).Nodup
  rw [keptTypes_eq]
  exact nodup_firstOfEach EntityType.name _ _

/-- A set of the model has the type of its name. -/
theorem typeOfSet?_of_find? {reading : DocumentReading} {name : String} {set : EntitySet}
    (h : reading.model.sets.find? (·.name == name) = some set) :
    ∃ type ∈ reading.model.types, type.name = set.typeName ∧
      reading.model.typeOfSet? name = some type := by
  obtain ⟨type, hmem, hname⟩ := List.mem_map.mp (mem_sets (List.mem_of_find?_eq_some h)).2
  refine ⟨type, hmem, hname, ?_⟩
  have htype := find?_name_of_mem reading.nodup_types hmem
  rw [hname] at htype
  simp only [Model.typeOfSet?, Model.setNamed?, h, Option.bind_eq_bind, Option.bind_some]
  exact htype

/-- A name leads to a type exactly when it is that of a set. -/
theorem typeOfSet?_isSome_iff (reading : DocumentReading) (name : String) :
    (reading.model.typeOfSet? name).isSome ↔ ∃ set ∈ reading.model.sets, set.name = name := by
  constructor
  · intro hsome
    obtain ⟨type, htype⟩ := Option.isSome_iff_exists.mp hsome
    rw [Model.typeOfSet?, Model.setNamed?] at htype
    obtain ⟨set, hset, -⟩ := Option.bind_eq_some_iff.mp htype
    have hname := List.find?_some hset
    exact ⟨set, List.mem_of_find?_eq_some hset, eq_of_beq hname⟩
  · rintro ⟨set, hmem, hname⟩
    have hfound : (reading.model.sets.find? (·.name == name)).isSome :=
      List.find?_isSome.mpr ⟨set, hmem, beq_iff_eq.mpr hname⟩
    obtain ⟨first, hfirst⟩ := Option.isSome_iff_exists.mp hfound
    obtain ⟨type, -, -, htype⟩ := typeOfSet?_of_find? hfirst
    rw [htype]
    rfl

/-- Linking makes a model intact whose types are, and which has a schema. -/
theorem intact_model {reading : DocumentReading}
    (types : ∀ type ∈ reading.types, type.entityType.Intact) (schemas : reading.schemas ≠ []) :
    reading.model.Intact where
  types_intact := fun type hmem => by
    obtain ⟨read, hread, rfl⟩ := exists_of_mem_types hmem
    exact types read hread
  types_distinct := reading.nodup_types
  sets_named := fun _ hmem => (mem_sets hmem).1
  sets_linked := fun _ hmem => List.count_eq_one_of_mem reading.nodup_types (mem_sets hmem).2
  typeOfSet_isSome := reading.typeOfSet?_isSome_iff
  typeOfSet_eq := fun _ _ hfirst => typeOfSet?_of_find? hfirst
  namespace_listed := dominantNamespace_mem schemas

/-- Every type read from an envelope is intact. -/
theorem intact_of_mem_types {envelope : Element} {schemas : List Element}
    {type : TypeReading} (h : type ∈ (ofEnvelope envelope schemas).types) :
    type.entityType.Intact := by
  obtain ⟨schema, -, hnamed⟩ := mem_types_ofEnvelope.mp h
  obtain ⟨element, -, hread⟩ := SchemaReading.mem_namedTypes_ofElement.mp hnamed
  exact TypeReading.intact_entityType (ofDocument_ofEnvelope envelope schemas) hread

end DocumentReading

/-- The model of every tree that has one is intact. -/
theorem intact_of_readTree {root : Element} {reading : DocumentReading}
    (h : readTree root = .ok reading) : reading.model.Intact := by
  obtain ⟨envelope, -, hschemas, rfl⟩ := readTree_eq_ok h
  refine DocumentReading.intact_model (fun _ => DocumentReading.intact_of_mem_types) fun hnil => ?_
  rw [DocumentReading.schemas_ofEnvelope] at hnil
  exact hschemas (List.map_eq_nil_iff.mp hnil)

/-! ## Properties of types -/

/-- Every type of a model was read from a type element. -/
theorem exists_element_of_mem_types {content? : Option String} {model : Model}
    (h : parse content? = .ok model) {type : EntityType} (hmem : type ∈ model.types) :
    ∃ associations? namespaceName element reading,
      TypeReading.ofElement? associations? namespaceName element = some reading ∧
        reading.entityType = type := by
  obtain ⟨root, reading, -, htree, rfl⟩ := parse_eq_ok h
  obtain ⟨envelope, -, -, rfl⟩ := readTree_eq_ok htree
  obtain ⟨read, hread, htype⟩ := DocumentReading.exists_of_mem_types hmem
  obtain ⟨schema, -, hnamed⟩ := DocumentReading.mem_types_ofEnvelope.mp hread
  obtain ⟨element, -, helement⟩ := SchemaReading.mem_namedTypes_ofElement.mp hnamed
  exact ⟨_, _, element, read, helement, htype⟩

/-- Every property of a model has a name. -/
theorem ne_empty_of_mem_propertyNames {content? : Option String} {model : Model}
    (h : parse content? = .ok model) {type : EntityType} (hmem : type ∈ model.types)
    {name : String} (hname : name ∈ type.propertyNames) : name ≠ "" := by
  obtain ⟨associations?, namespaceName, element, reading, hread, rfl⟩ :=
    exists_element_of_mem_types h hmem
  obtain ⟨property, hproperty, rfl⟩ := List.mem_map.mp hname
  rw [TypeReading.ofElement?] at hread
  split at hread
  · cases hread
  · cases hread
    change property ∈ readProperties element at hproperty
    rw [readProperties, keepProperties_eq] at hproperty
    have hgood := (firstOfEach_sublist Property.name _ _).subset hproperty
    simpa using (List.mem_filter.mp hgood).2

end ODataExplorer.Csdl
