import ODataExplorer.Proofs.Csdl.AssociationRole
import ODataExplorer.Proofs.Csdl.Declared

/-!
What an alias leads to.

A schema may be called by an alias, and a navigation may name its association after it. The full
names of all associations of a document share one table, so an alias does not stand for its schema
by itself: a full name stands for the first association that was met with it, in whatever schema.

Main statement: a navigation that asks by an alias gets what this first association answers, and
that is the association of the aliased schema unless its full name was taken before it was met
(`alias_answered`). Two schemas that share an alias show that the condition cannot be left out
(`alias_shared`).
-/

namespace ODataExplorer.Csdl

open Xml Text

/-! ## Asking by an alias -/

/-- A navigation of a named type of a schema that has no type of its own, a name that no sibling
has, and as its relationship the alias of the schema followed by the name of an association. -/
structure AsksByAlias (schema association type navigation : Element) : Prop where
  aliased : schema.getText "Alias" ≠ ""
  type_mem : type ∈ findAll "EntityType" schema
  type_named : type.getText "Name" ≠ ""
  alone : (childrenNamed "NavigationProperty" type).filter
    (·.getText "Name" == navigation.getText "Name") = [navigation]
  named : navigation.getText "Name" ≠ ""
  untyped : isBlankText (navigation.getText "Type") = true
  relationship_eq : navigation.getText "Relationship" =
    schema.getText "Alias" ++ "." ++ association.getText "Name"

/-- A type that is read for an element of a schema. It is in the model if no type before it has the
name. -/
structure ReadsType (reading : DocumentReading) (schema type : Element) (read : TypeReading) :
    Prop where
  ofElement_eq :
    TypeReading.ofElement? reading.associations? (schema.getText "Namespace") type = some read
  mem : read ∈ reading.types
  mem_model : reading.types.find? (·.name == read.name) = some read →
    read.entityType ∈ reading.model.types

/-- How a navigation of a type comes out when an association answers for it: it is kept with the
target that was answered, and left out when there is none. -/
def Answered (reading : DocumentReading) (schema type navigation : Element) :
    Option String → Prop
  | some target => ∃ read, ReadsType reading schema type read ∧
    ⟨navigation.getText "Name", target, readConstraint? navigation⟩ ∈ read.entityType.navigations
  | none => ∃ read, ReadsType reading schema type read ∧
    ∀ kept ∈ read.entityType.navigations, kept.name ≠ navigation.getText "Name"

/-! ## The first of a full name -/

/-- A role of an association leads to the type of an end with the role. -/
theorem exists_roleType? {role : String} {element : Element}
    (h : role ∈ (childrenNamed "End" element).map (·.getText "Role")) :
    ∃ side ∈ childrenNamed "End" element, side.getText "Role" = role ∧
      roleType? role element = some (endType side) := by
  obtain ⟨side, hside, hrole⟩ := List.mem_map.mp h
  have hsome : ((childrenNamed "End" element).reverse.find? (·.getText "Role" == role)).isSome :=
    List.find?_isSome.mpr ⟨side, List.mem_reverse.mpr hside, beq_iff_eq.mpr hrole⟩
  obtain ⟨last, hlast⟩ := Option.isSome_iff_exists.mp hsome
  have hhas := List.find?_some hlast
  refine ⟨last, List.mem_reverse.mp (List.mem_of_find?_eq_some hlast), eq_of_beq hhas, ?_⟩
  rw [roleType?, hlast, Option.map_some]

/-- A relationship that is a full name asks the first association that has it, and no other. -/
theorem resolve?_of_hasFullName {schemas : List Element} {relationship role : String}
    {first : MetAssociation} (hne : relationship ≠ "")
    (hfirst : (usableAssociations schemas).find? (·.hasFullName relationship) = some first) :
    (Associations.ofSchemas schemas).resolve? relationship role = roleType? role first.element := by
  refine resolve?_of_pick? hne ?_
  rw [pick?, hfirst, Option.some_or]

theorem mem_usableAssociations {schemas : List Element} {schema association : Element}
    (hschema : schema ∈ schemas) (hmem : association ∈ findAll "Association" schema)
    (husable : isUsableAssociation association = true) :
    ⟨schema, association⟩ ∈ usableAssociations schemas := by
  refine List.mem_filter.mpr ⟨List.mem_flatMap.mpr ⟨schema, hschema, ?_⟩, husable⟩
  exact List.mem_map.mpr ⟨association, hmem, rfl⟩

namespace AsksByAlias

variable {schema association type navigation : Element}

theorem relationship_ne (h : AsksByAlias schema association type navigation) :
    navigation.getText "Relationship" ≠ "" := by
  intro hempty
  rw [h.relationship_eq, String.append_eq_empty_iff, String.append_eq_empty_iff] at hempty
  exact h.aliased hempty.1.1

/-- The relationship is the name of the association after the alias of its schema. -/
theorem hasFullName (h : AsksByAlias schema association type navigation) :
    MetAssociation.hasFullName (navigation.getText "Relationship") ⟨schema, association⟩ =
      true := by
  rw [MetAssociation.hasFullName, List.any_eq_true]
  refine ⟨"Alias", by simp, ?_⟩
  rw [h.relationship_eq]
  simp [h.aliased]

end AsksByAlias

/-! ## The navigation in its type -/

/-- A type element with a name is read as a type of the document. -/
theorem exists_readsType {root schema type : Element} {reading : DocumentReading}
    (hread : readTree root = .ok reading) (hschema : schema ∈ reading.schemaElements)
    (htype : type ∈ findAll "EntityType" schema) (hnamed : type.getText "Name" ≠ "") :
    ∃ read, ReadsType reading schema type read := by
  obtain ⟨envelope, -, -, rfl⟩ := readTree_eq_ok hread
  have hread : ∃ read, TypeReading.ofElement?
      (DocumentReading.ofEnvelope envelope (findAll "Schema" envelope)).associations?
      (schema.getText "Namespace") type = some read := by
    rw [TypeReading.ofElement?, String.isEmpty_eq_false_iff.mpr hnamed, if_neg Bool.false_ne_true]
    exact ⟨_, rfl⟩
  obtain ⟨read, hread⟩ := hread
  refine ⟨read, hread, ?_, fun hfirst => ?_⟩
  · exact DocumentReading.mem_types_ofEnvelope.mpr
      ⟨schema, hschema, SchemaReading.mem_namedTypes_ofElement.mpr ⟨type, htype, hread⟩⟩
  · refine List.mem_of_find?_eq_some (p := (EntityType.name · == read.name)) ?_
    show (DocumentReading.keptTypes _).find? _ = _
    rw [DocumentReading.keptTypes_eq, find?_firstOfEach _ _ List.not_mem_nil, List.find?_map]
    exact congrArg (Option.map TypeReading.entityType) hfirst

/-- A navigation with a name that no sibling has is kept as it is read, if at all. -/
theorem find?_navigations {associations? : Option Associations} {namespaceName : String}
    {type navigation : Element} {read : TypeReading}
    (hread : TypeReading.ofElement? associations? namespaceName type = some read)
    (halone : (childrenNamed "NavigationProperty" type).filter
      (·.getText "Name" == navigation.getText "Name") = [navigation]) :
    read.entityType.navigations.find? (·.name == navigation.getText "Name") =
      readNavigation? associations? navigation := by
  have hnavigations : read.entityType.navigations = firstOfEach Navigation.name []
      ((childrenNamed "NavigationProperty" type).filterMap (readNavigation? associations?)) := by
    rw [TypeReading.ofElement?] at hread
    split at hread
    · cases hread
    · cases hread
      exact filterMap_judgeNavigations associations? [] _
  have hnamed : ((childrenNamed "NavigationProperty" type).filterMap
      (readNavigation? associations?)).filter (·.name == navigation.getText "Name") =
        ((childrenNamed "NavigationProperty" type).filter
          (·.getText "Name" == navigation.getText "Name")).filterMap
            (readNavigation? associations?) := by
    rw [List.filter_filterMap, List.filterMap_filter]
    refine List.filterMap_congr fun element _ => ?_
    cases hkept : readNavigation? associations? element with
    | none => rw [Option.filter_none, ite_self]
    | some kept => rw [Option.filter_some, (name_of_readNavigation? hkept).1]; rfl
  rw [hnavigations, find?_firstOfEach _ _ List.not_mem_nil, ← List.head?_filter, hnamed, halone,
    List.filterMap_cons]
  cases readNavigation? associations? navigation <;> rfl

/-- A document of the older dialect is read with the associations of its schemas. -/
theorem associations?_of_older {root : Element} {reading : DocumentReading}
    (hread : readTree root = .ok reading)
    (holder : isModernVersion reading.versions.protocol = false) :
    reading.associations? = some (Associations.ofSchemas reading.schemaElements) := by
  obtain ⟨envelope, -, -, rfl⟩ := readTree_eq_ok hread
  exact DocumentReading.associations?_ofEnvelope_eq_some_iff.mpr ⟨holder, rfl⟩

/-- An answer for a navigation of a named type settles how the navigation comes out. -/
theorem answered_of_resolve? {root schema association type navigation : Element}
    {reading : DocumentReading} {associations : Associations}
    (hread : readTree root = .ok reading)
    (hassociations : reading.associations? = some associations)
    (hschema : schema ∈ reading.schemaElements)
    (hasks : AsksByAlias schema association type navigation) :
    Answered reading schema type navigation (associations.resolve?
      (navigation.getText "Relationship") (navigation.getText "ToRole")) := by
  obtain ⟨read, htype⟩ := exists_readsType hread hschema hasks.type_mem hasks.type_named
  have hkept := find?_navigations htype.ofElement_eq hasks.alone
  have huntyped : (trim (navigation.getText "Type")).isEmpty = true := by
    rw [isEmpty_trim]
    exact hasks.untyped
  rw [readNavigation?, String.isEmpty_eq_false_iff.mpr hasks.named, if_neg Bool.false_ne_true,
    navigationType?, if_pos huntyped, hassociations, Option.bind_some] at hkept
  cases hanswer : associations.resolve? (navigation.getText "Relationship")
      (navigation.getText "ToRole") with
  | some target =>
    rw [hanswer, Option.map_some] at hkept
    exact ⟨read, htype, List.mem_of_find?_eq_some hkept⟩
  | none =>
    rw [hanswer, Option.map_none, List.find?_eq_none] at hkept
    exact ⟨read, htype, fun kept hmem heq => hkept kept hmem (beq_iff_eq.mpr heq)⟩

/-! ## What decides -/

/-- **A navigation that asks by an alias gets the answer of the first association of its full
name**, in every document of the older dialect. There always is one. Where no association that was
met before has the full name, it is the association of the aliased schema: a role of the association
then leads to the type of an end with the role, and the navigation is kept with it. -/
theorem alias_answered {root schema association type navigation : Element}
    {reading : DocumentReading} (hread : readTree root = .ok reading)
    (holder : isModernVersion reading.versions.protocol = false)
    (hschema : schema ∈ reading.schemaElements)
    (hmem : association ∈ findAll "Association" schema)
    (husable : isUsableAssociation association = true)
    (hasks : AsksByAlias schema association type navigation) :
    (∀ content?, readContent content? = .ok root → parse content? = .ok reading.model) ∧
    (∃ first, (usableAssociations reading.schemaElements).find?
        (·.hasFullName (navigation.getText "Relationship")) = some first ∧
      Answered reading schema type navigation
        (roleType? (navigation.getText "ToRole") first.element)) ∧
    ∀ before after,
      usableAssociations reading.schemaElements = before ++ ⟨schema, association⟩ :: after →
      (∀ met ∈ before, met.hasFullName (navigation.getText "Relationship") = false) →
      navigation.getText "ToRole" ∈ (childrenNamed "End" association).map (·.getText "Role") →
      ∃ side ∈ childrenNamed "End" association,
        side.getText "Role" = navigation.getText "ToRole" ∧
          Answered reading schema type navigation (some (endType side)) := by
  have hassociations := associations?_of_older hread holder
  have hanswered : ∀ first, (usableAssociations reading.schemaElements).find?
      (·.hasFullName (navigation.getText "Relationship")) = some first →
      Answered reading schema type navigation
        (roleType? (navigation.getText "ToRole") first.element) := by
    intro first hfirst
    rw [← resolve?_of_hasFullName hasks.relationship_ne hfirst]
    exact answered_of_resolve? hread hassociations hschema hasks
  refine ⟨fun content? hcontent => parse_of_readTree hcontent hread, ?_,
    fun before after hsplit hbefore hrole => ?_⟩
  · have hmet := mem_usableAssociations hschema hmem husable
    have hsome : ((usableAssociations reading.schemaElements).find?
        (·.hasFullName (navigation.getText "Relationship"))).isSome :=
      List.find?_isSome.mpr ⟨_, hmet, hasks.hasFullName⟩
    obtain ⟨first, hfirst⟩ := Option.isSome_iff_exists.mp hsome
    exact ⟨first, hfirst, hanswered first hfirst⟩
  · have hnone : before.find? (·.hasFullName (navigation.getText "Relationship")) = none :=
      List.find?_eq_none.mpr fun met hmet => Bool.eq_false_iff.mp (hbefore met hmet)
    have hfirst : (usableAssociations reading.schemaElements).find?
        (·.hasFullName (navigation.getText "Relationship")) = some ⟨schema, association⟩ := by
      rw [hsplit, List.find?_append, hnone, List.find?_cons_of_pos hasks.hasFullName,
        Option.none_or]
    obtain ⟨side, hside, hhas, htype⟩ := exists_roleType? hrole
    refine ⟨side, hside, hhas, ?_⟩
    rw [← htype]
    exact hanswered _ hfirst

/-! ## Two schemas with one alias -/

/-- An association between the orders and the lines of a namespace. -/
def linkIn (namespaceName name : String) : Element :=
  .node "Association" [("Name", name)] [
    .node "End" [("Role", "Order"), ("Type", namespaceName ++ ".Order")] [],
    .node "End" [("Role", "Line"), ("Type", namespaceName ++ ".Line")] []]

/-- A navigation to a line by an association of a schema called `Self`. -/
def lineBy (association : String) : Element :=
  .node "NavigationProperty"
    [("Name", "Line"), ("Relationship", "Self." ++ association), ("ToRole", "Line")] []

/-- A type with that navigation. -/
def orderWith (association : String) : Element :=
  .node "EntityType" [("Name", "Order")] [lineBy association]

/-- A schema called `Self` with an association, and with some types. -/
def selfSchema (namespaceName association : String) (types : List Element) : Element :=
  .node "Schema" [("Namespace", namespaceName), ("Alias", "Self")]
    (linkIn namespaceName association :: types)

/-- The second of the schemas of the document below: its type asks for its association. -/
def askingSchema (association : String) : Element :=
  selfSchema "B" association [orderWith association]

/-- A document of the older dialect with two schemas that are called `Self`. -/
def selfTwice (association : String) : Element :=
  .node "Edmx" [("Version", "1.0")] [selfSchema "A" "Link" [], askingSchema association]

/-- The reading of that document. -/
def selfTwiceReading (association : String) : DocumentReading :=
  .ofEnvelope (selfTwice association) [selfSchema "A" "Link" [], askingSchema association]

theorem asksByAlias_lineBy {association : String} (h : association ∈ ["Row", "Link"]) :
    AsksByAlias (askingSchema association) (linkIn "B" association) (orderWith association)
      (lineBy association) where
  aliased := (by decide : "Self" ≠ "")
  type_mem := List.mem_singleton.mpr rfl
  type_named := (by decide : "Order" ≠ "")
  alone := by
    revert association
    simp only [List.forall_mem_cons, List.not_mem_nil, false_implies, implies_true, and_true]
    exact ⟨rfl, rfl⟩
  named := (by decide : "Line" ≠ "")
  untyped := rfl
  relationship_eq := by
    show "Self." ++ association = "Self" ++ "." ++ association
    rfl

/-- An association that has a name of its own is found by the shared alias. -/
theorem alias_answered_row :
    readTree (selfTwice "Row") = .ok (selfTwiceReading "Row") ∧
      ∃ side ∈ childrenNamed "End" (linkIn "B" "Row"), side.getText "Role" = "Line" ∧
        Answered (selfTwiceReading "Row") (askingSchema "Row") (orderWith "Row") (lineBy "Row")
          (some (endType side)) := by
  have hread : readTree (selfTwice "Row") = .ok (selfTwiceReading "Row") := rfl
  have hschema : askingSchema "Row" ∈ (selfTwiceReading "Row").schemaElements :=
    List.mem_cons_of_mem _ List.mem_cons_self
  have hmem : linkIn "B" "Row" ∈ findAll "Association" (askingSchema "Row") :=
    List.mem_singleton.mpr rfl
  obtain ⟨-, -, hfirst⟩ := alias_answered hread (by decide) hschema hmem (by decide)
    (asksByAlias_lineBy (by decide))
  exact ⟨hread,
    hfirst [⟨selfSchema "A" "Link" [], linkIn "A" "Link"⟩] [] rfl (by decide) (by decide)⟩

/-- Whether every alias of a document means its schema: a navigation that asks for an association by
the alias of its schema is kept with the type of the end that has the role. -/
def AliasesMeanSchemas (root : Element) : Prop :=
  ∀ reading, readTree root = .ok reading → isModernVersion reading.versions.protocol = false →
    (reading.schemaElements.map (·.getText "Namespace")).Nodup →
    ∀ schema ∈ reading.schemaElements, ∀ association type navigation : Element,
      (findAll "Association" schema).find? (·.getText "Name" == association.getText "Name") =
        some association →
      isUsableAssociation association = true →
      AsksByAlias schema association type navigation →
      navigation.getText "ToRole" ∈ (childrenNamed "End" association).map (·.getText "Role") →
      ∃ side ∈ childrenNamed "End" association,
        side.getText "Role" = navigation.getText "ToRole" ∧
          Answered reading schema type navigation (some (endType side))

/-- Where the first schema has an association of the same name, the navigation gets the type that
this one gives. -/
theorem alias_shared : ¬AliasesMeanSchemas (selfTwice "Link") := by
  intro hmeans
  obtain ⟨side, hside, -, read, htype, hkept⟩ := hmeans (selfTwiceReading "Link") rfl (by decide)
    (by decide) (askingSchema "Link") (List.mem_cons_of_mem _ List.mem_cons_self)
    (linkIn "B" "Link") (orderWith "Link") (lineBy "Link") rfl (by decide)
    (asksByAlias_lineBy (by decide)) (by decide)
  have hnavigations : (TypeReading.ofElement? (selfTwiceReading "Link").associations?
      ((askingSchema "Link").getText "Namespace") (orderWith "Link")).map
        (·.entityType.navigations) = some [⟨"Line", "A.Line", none⟩] := by
    decide
  have hends : ∀ side ∈ childrenNamed "End" (linkIn "B" "Link"), endType side ≠ "A.Line" := by
    decide
  rw [htype.ofElement_eq, Option.map_some, Option.some_inj] at hnavigations
  rw [hnavigations, List.mem_singleton, Navigation.mk.injEq] at hkept
  exact hends side hside hkept.2.1

end ODataExplorer.Csdl
