import ODataExplorer.Proofs.Csdl.Declared
import ODataExplorer.Proofs.Csdl.Edit

/-!
How far associations reach.

In two documents that differ in their associations only, everything else is read alike: associations
give types to the navigations that declare none, and decide nothing beyond that. Main statement: the
models of such documents are equal in the modern dialect, and in the older one they are equal besides
the navigations without a type of their own (`parse_associations`). A navigation with a type is kept
with that type, trimmed, whatever associations there are (`filter_navigations`).

An association is looked through by lookups at any depth, so it must not hold anything that the
structure of a document is made of; inside a type it must not hold anything that keys are made of.
-/

namespace ODataExplorer.Csdl

open Xml Text

/-! ## Declared navigations -/

/-- The declared navigations with a name and a type. -/
def inlineNavigations (type : Element) : List Navigation :=
  (declaredNavigations type).filter fun navigation =>
    !navigation.name.isEmpty && !navigation.type.isEmpty

/-- The names of the declared navigations without a type. -/
def untypedNames (type : Element) : List String :=
  ((declaredNavigations type).filter (·.type.isEmpty)).map (·.name)

/-- No two navigations of a type element have one name. Any number may be without a name. -/
def NavigationsDistinct (type : Element) : Prop :=
  (((declaredNavigations type).filter (!·.name.isEmpty)).map (·.name)).Nodup

instance (type : Element) : Decidable (NavigationsDistinct type) :=
  inferInstanceAs (Decidable (List.Nodup _))

variable {associations? associations?' : Option Associations} {element : Element}

/-- A declared navigation with a type does not share its name with one without. -/
theorem NavigationsDistinct.notMem_untypedNames {type : Element} (h : NavigationsDistinct type)
    {navigation : Navigation} (hmem : navigation ∈ inlineNavigations type) :
    navigation.name ∉ untypedNames type := by
  intro huntyped
  obtain ⟨other, hother, hname⟩ := List.mem_map.mp huntyped
  obtain ⟨hdeclared, hinline⟩ := List.mem_filter.mp hmem
  obtain ⟨hdeclared', hblank⟩ := List.mem_filter.mp hother
  rw [Bool.and_eq_true, Bool.not_eq_true', Bool.not_eq_true'] at hinline
  have hnamed : ∀ n, n.name = navigation.name → n ∈ declaredNavigations type →
      n ∈ (declaredNavigations type).filter (!·.name.isEmpty) := by
    intro n heq hn
    refine List.mem_filter.mpr ⟨hn, ?_⟩
    rw [heq, hinline.1]
    rfl
  have heq := List.inj_on_of_nodup_map h (hnamed other hname hdeclared')
    (hnamed navigation rfl hdeclared) hname
  rw [heq, hinline.2] at hblank
  cases hblank

/-- Of one declared navigation, what is read besides the untyped ones is what has a name and a type. -/
theorem filter_readNavigation? (associations? : Option Associations) {type : Element}
    (h : NavigationsDistinct type) (hmem : element ∈ childrenNamed "NavigationProperty" type) :
    (readNavigation? associations? element).filter
        (fun navigation => !(untypedNames type).contains navigation.name) =
      Option.guard (fun navigation => !navigation.name.isEmpty && !navigation.type.isEmpty)
        (declaredNavigation element) := by
  have hdeclared : declaredNavigation element ∈ declaredNavigations type :=
    List.mem_map_of_mem hmem
  rw [readNavigation?_eq, Option.guard]
  by_cases hname : (declaredNavigation element).name.isEmpty = true
  · rw [if_pos hname, hname]
    rfl
  rw [if_neg hname]
  by_cases htype : (declaredNavigation element).type.isEmpty = true
  · have huntyped : (declaredNavigation element).name ∈ untypedNames type :=
      List.mem_map_of_mem (List.mem_filter.mpr ⟨hdeclared, htype⟩)
    rw [if_pos htype, htype, Bool.not_true, Bool.and_false]
    cases navigationType? associations? element with
    | none => rfl
    | some given =>
      rw [Option.map_some, Option.filter, List.contains_iff_mem.mpr huntyped]
      rfl
  · have hinline : declaredNavigation element ∈ inlineNavigations type := by
      refine List.mem_filter.mpr ⟨hdeclared, ?_⟩
      rw [Bool.eq_false_iff.mpr hname, Bool.eq_false_iff.mpr htype]
      rfl
    have hfree : (untypedNames type).contains (declaredNavigation element).name = false :=
      Bool.eq_false_iff.mpr fun huntyped =>
        h.notMem_untypedNames hinline (List.contains_iff_mem.mp huntyped)
    rw [if_neg htype, (List.mem_filter.mp hinline).2, Option.filter, hfree]
    rfl

/-- **A navigation with a type of its own is kept with it,** whatever associations there are: what
is read besides the untyped navigations is what is declared. -/
theorem filter_navigations (associations? : Option Associations) {type : Element}
    (h : NavigationsDistinct type) :
    ((readNavigations associations? type).filterMap NavigationReading.kept?).filter
        (fun navigation => !(untypedNames type).contains navigation.name) =
      inlineNavigations type := by
  have hdistinct := (names_sublist associations? (childrenNamed "NavigationProperty" type)).nodup h
  rw [readNavigations, filterMap_judgeNavigations,
    firstOfEach_eq_self _ hdistinct fun _ _ => List.not_mem_nil, List.filter_filterMap,
    inlineNavigations, ← List.filterMap_eq_filter, declaredNavigations, List.filterMap_map]
  exact List.filterMap_congr fun element hmem => filter_readNavigation? associations? h hmem

/-! ## Types -/

/-- Two types that agree besides the navigations that their element declares without a type. -/
structure AgreeBesidesUntyped (element : Element) (type type' : EntityType) : Prop where
  name_eq : type.name = type'.name
  namespaceName_eq : type.namespaceName = type'.namespaceName
  keys_eq : type.keys = type'.keys
  properties_eq : type.properties = type'.properties
  /-- The navigations that are left are those declared with a type, in both. -/
  navigations_eq : ∀ one ∈ [type, type'],
    one.navigations.filter (fun navigation => !(untypedNames element).contains navigation.name) =
      inlineNavigations element

section Types

variable {R : Element → Element → Prop} {a b : Element}

theorem TypesAlike.declaredNavigations_eq (h : TypesAlike R) (hR : R a b) :
    declaredNavigations a = declaredNavigations b := by
  refine map_eq_of_forall₂ (h.holds "NavigationProperty" (by decide) hR) fun _ _ hbelow => ?_
  unfold declaredNavigation
  simp (disch := decide) only [h.getText_eq hbelow,
    h.readConstraint?_eq (h.holds _ (by decide)) hbelow]

/-- Related type elements are read as types that agree, whatever associations there are. -/
theorem TypesAlike.typeReading_rel (h : TypesAlike R)
    (associations? associations?' : Option Associations) (hR : R a b)
    (hdistinct : NavigationsDistinct a) (namespaceName : String) :
    Option.Rel (fun reading reading' => AgreeBesidesUntyped a reading.entityType reading'.entityType)
      (TypeReading.ofElement? associations? namespaceName a)
      (TypeReading.ofElement? associations?' namespaceName b) := by
  have hname := h.getText_eq hR (by decide : IsPlain "Name") (by decide)
  have hproperties := h.readProperties_eq (h.holds _ (by decide)) hR
  have hkeys (declared : List String) :=
    h.readKeys_eq (h.finds _ (by decide)) (h.finds _ (by decide)) declared hR
  have hdeclared := h.declaredNavigations_eq hR
  have hdistinct' : NavigationsDistinct b := by
    rw [NavigationsDistinct, ← hdeclared]
    exact hdistinct
  have hnavigations' := filter_navigations associations?' hdistinct'
  rw [inlineNavigations, untypedNames, ← hdeclared] at hnavigations'
  unfold TypeReading.ofElement?
  simp only [hname, hproperties, hkeys]
  split
  · exact .none
  · refine .some ⟨rfl, rfl, rfl, rfl, ?_⟩
    rintro one hone
    obtain rfl | hone := List.mem_cons.mp hone
    · exact filter_navigations associations? hdistinct
    · rw [List.mem_singleton.mp hone]
      exact hnavigations'

end Types

/-- The element that declares the type of a name: the first type element of the document with the
name. -/
def declaration? (name : String) (root : Element) : Option Element :=
  (findSchemas root).toOption.bind fun found =>
    (found.2.flatMap (findAll "EntityType")).find? (·.getText "Name" == name)

/-- The first type of a name is that of the first element of the name. -/
theorem map_find?_declaredTypes {name : String} (hname : name.isEmpty = false) (schema : Element) :
    ((declaredTypes associations? schema).find? (·.2.name == name)).map (·.1) =
      (findAll "EntityType" schema).find? (·.getText "Name" == name) := by
  unfold declaredTypes
  induction findAll "EntityType" schema with
  | nil => rfl
  | cons element rest ih =>
    rw [List.filterMap_cons, List.find?_cons, TypeReading.ofElement?]
    by_cases hunnamed : (element.getText "Name").isEmpty = true
    · have hother : (element.getText "Name" == name) = false := by
        refine beq_eq_false_iff_ne.mpr ?_
        rintro rfl
        exact Bool.false_ne_true (hname.symm.trans hunnamed)
      rw [if_pos hunnamed, hother]
      exact ih
    · rw [if_neg hunnamed, Option.map_some, List.find?_cons, TypeReading.entityType]
      dsimp only
      cases element.getText "Name" == name with
      | true => rfl
      | false => exact ih

/-- A type that is kept is that of the first element of its name. -/
theorem find?_of_mem_declaredTypes {schemas : List Element} {declared : Element × EntityType}
    (h : declared ∈ firstOfEach (·.2.name) [] (schemas.flatMap (declaredTypes associations?))) :
    (schemas.flatMap (findAll "EntityType")).find? (·.getText "Name" == declared.2.name) =
      some declared.1 := by
  have hname : declared.2.name.isEmpty = false := by
    obtain ⟨schema, -, hmem⟩ := List.mem_flatMap.mp ((firstOfEach_sublist _ _ _).subset h)
    exact (name_of_mem_declaredTypes hmem).2
  have hfound := congrArg (Option.map (·.1)) (find?_of_mem_firstOfEach _ h)
  rw [List.find?_flatMap, List.map_findSome?] at hfound
  rw [List.find?_flatMap, ← Option.map_some, ← hfound]
  refine congrArg (List.findSome? · schemas) (funext fun schema => ?_)
  exact (map_find?_declaredTypes hname schema).symm

/-! ## Models -/

/-- Which namespace leads is settled by how many types there are in which. -/
theorem dominantNamespace_congr {readings readings' : List SchemaReading}
    (h : readings.map (fun reading => (reading.namespaceName, reading.namedTypes.length)) =
      readings'.map fun reading => (reading.namespaceName, reading.namedTypes.length)) :
    dominantNamespace readings = dominantNamespace readings' := by
  have hnames : ∀ l : List SchemaReading, l.map (·.namespaceName) =
      (l.map fun reading => (reading.namespaceName, reading.namedTypes.length)).map (·.1) := by
    intro l
    rw [List.map_map]
    rfl
  have hcount : ∀ l : List SchemaReading, typeCount l = fun name =>
      total (((l.map fun reading => (reading.namespaceName, reading.namedTypes.length)).filter
        (·.1 == name)).map (·.2)) := by
    intro l
    funext name
    rw [typeCount, List.filter_map, List.map_map]
    rfl
  unfold dominantNamespace
  rw [hcount, hcount, hnames, hnames, h]

/-- Two models that agree besides the navigations that a document declares without types. -/
structure ModelsAgree (root : Element) (model model' : Model) : Prop where
  versions_eq : model.versions = model'.versions
  namespaceName_eq : model.namespaceName = model'.namespaceName
  namespaces_eq : model.namespaces = model'.namespaces
  sets_eq : model.sets = model'.sets
  types_agree : List.Forall₂
    (fun type type' => ∃ element, declaration? type.name root = some element ∧
      AgreeBesidesUntyped element type type') model.types model'.types

/-- Outcomes that are the same in the modern dialect, and in the older one agree besides the
navigations that a document declares without types. -/
def DifferInUntyped (root : Element) (outcome outcome' : Model × Session) : Prop :=
  (outcome.1.isModern = true → outcome = outcome') ∧ ModelsAgree root outcome.1 outcome'.1

/-! ## Associations that are exchanged -/

/-- The names of what the structure of a document is made of. -/
def structureNames : List String :=
  [envelopeName, "DataServices", "Schema", "EntityType", "EntityContainer"]

/-- An association among the children of a schema that holds nothing of the structure. -/
def isFreeAssociation (around : List String) (element : Element) : Bool :=
  around.head? == some "Schema" && localName element.tag == "Association" &&
    holdsNone structureNames element

/-- Inside a type an association has to spare the keys, too. -/
def isLooseAssociation (around : List String) (element : Element) : Bool :=
  isFreeAssociation around element && sparesKeys around element

/-- The edit that inserts, removes and exchanges associations of schemas. -/
def exchangeAssociations : Edit := exchange isLooseAssociation

theorem leavesAlone_exchangeAssociations {name : String} (h : name ∈ structureNames)
    (path : List String) : LeavesAlone exchangeAssociations path name := by
  refine leavesAlone_of_loose (editsOnly_exchange _) fun around _ e he below hbelow => ?_
  rw [isLooseAssociation, isFreeAssociation, Bool.and_eq_true, Bool.and_eq_true] at he
  exact localName_ne_of_holdsNone he.1.2 h hbelow

theorem localName_of_isLooseAssociation {around : List String} {element : Element}
    (h : isLooseAssociation around element = true) : localName element.tag = "Association" := by
  rw [isLooseAssociation, isFreeAssociation, Bool.and_eq_true, Bool.and_eq_true,
    Bool.and_eq_true] at h
  exact eq_of_beq h.1.1.2

theorem typesAlike_exchangeAssociations : TypesAlike (EditedIn exchangeAssociations typePath) :=
  typesAlike_editedIn (editsOnly_exchange _)
    (fun _ _ he => (Bool.and_eq_true_iff.mp he).2)
    fun _ _ he => by
      rw [localName_of_isLooseAssociation he]
      decide

/-- The types of a schema are found again, edited themselves. -/
theorem forall₂_findAll_entityType {a b : Element}
    (h : EditedIn exchangeAssociations ["Schema"] a b) :
    List.Forall₂ (EditedIn exchangeAssociations typePath) (findAll "EntityType" a)
      (findAll "EntityType" b) :=
  h.findAll (by decide) (leavesAlone_exchangeAssociations (by decide) _)

/-- Schemas that differ in their associations, with navigations that their types tell apart. -/
def SchemasDiffer (a b : Element) : Prop :=
  (∀ type ∈ findAll "EntityType" a, NavigationsDistinct type) ∧
    EditedIn exchangeAssociations ["Schema"] a b

/-- The types of such schemas agree one by one, whatever associations they are read with. -/
theorem SchemasDiffer.declaredTypes {a b : Element} (h : SchemasDiffer a b)
    (associations? associations?' : Option Associations) :
    List.Forall₂ (fun declared declared' => AgreeBesidesUntyped declared.1 declared.2 declared'.2)
      (declaredTypes associations? a) (Csdl.declaredTypes associations?' b) := by
  have hname := (saysAlike_editedIn _ _).getText_eq h.2 (by decide : IsPlain "Namespace") (by decide)
  have hfound := (List.forall₂_and_left _ _).mpr ⟨h.1, forall₂_findAll_entityType h.2⟩
  unfold Csdl.declaredTypes
  rw [hname]
  refine List.rel_filterMap (fun element element' ⟨hdistinct, hedited⟩ => ?_) hfound
  have hread := typesAlike_exchangeAssociations.typeReading_rel associations? associations?' hedited
    hdistinct (b.getText "Namespace")
  generalize TypeReading.ofElement? associations? (b.getText "Namespace") element = reading?,
    TypeReading.ofElement? associations?' (b.getText "Namespace") element' = reading?' at hread ⊢
  cases hread with
  | none => exact .none
  | some hagree => exact .some hagree

theorem SchemasDiffer.namedTypes_length {a b : Element} (h : SchemasDiffer a b) :
    (SchemaReading.ofElement associations? a).namedTypes.length =
      (SchemaReading.ofElement associations?' b).namedTypes.length := by
  have hlength (associations? : Option Associations) (schema : Element) :=
    congrArg List.length (map_entityType_namedTypes associations? schema)
  simp only [List.length_map] at hlength
  rw [hlength, hlength]
  exact (h.declaredTypes _ _).length_eq

theorem findsAlike_exchangeAssociations {name : String} (path : List String)
    (h : name ∈ structureNames) : FindsAlike (EditedIn exchangeAssociations path) name :=
  findsAlike_editedIn ((by decide : ∀ name ∈ structureNames, IsPlain name) name h)
    (leavesAlone_exchangeAssociations h path)

theorem holdsAlike_exchangeAssociations {name : String} (path : List String)
    (h : name ≠ "Association") : HoldsAlike (EditedIn exchangeAssociations path) name :=
  holdsAlike_editedIn (leavesSiblingsAlone_of_loose (editsOnly_exchange _) fun _ _ _ he heq =>
    h (heq.symm.trans (localName_of_isLooseAssociation he)))

theorem SchemasDiffer.readSets_eq {a b : Element} (h : SchemasDiffer a b) :
    SchemaReading.readSets a = SchemaReading.readSets b :=
  (saysAlike_editedIn _ _).readSets_eq (findsAlike_exchangeAssociations _ (by decide))
    (holdsAlike_exchangeAssociations _ (by decide)) h.2

/-- Without associations to ask, such schemas are read alike. -/
theorem SchemasDiffer.ofElement_eq {a b : Element} (h : SchemasDiffer a b) :
    SchemaReading.ofElement none a = SchemaReading.ofElement none b :=
  (saysAlike_editedIn _ _).schemaReading_eq (findsAlike_exchangeAssociations _ (by decide))
    (holdsAlike_exchangeAssociations _ (by decide)) typesAlike_exchangeAssociations
    (fun _ _ => forall₂_findAll_entityType) rfl h.2

/-! ## Documents -/

section Documents

variable {envelope envelope' : Element} {schemas schemas' : List Element}

theorem versions_eq_of_exchanged
    (henvelope : EditedIn exchangeAssociations [] envelope envelope') :
    Versions.ofRoot envelope = Versions.ofRoot envelope' :=
  (saysAlike_editedIn _ _).versions_eq (findsAlike_exchangeAssociations _ (by decide)) henvelope

/-- The types of a document agree one by one with those of the other, and stand under the same
names. -/
theorem forall₂_keptTypes (envelope envelope' : Element)
    (hschemas : List.Forall₂ SchemasDiffer schemas schemas') :
    List.Forall₂
      (fun type type' => ∃ element, (schemas.flatMap (findAll "EntityType")).find?
          (·.getText "Name" == type.name) = some element ∧ AgreeBesidesUntyped element type type')
      (DocumentReading.ofEnvelope envelope schemas).keptTypes
      (DocumentReading.ofEnvelope envelope' schemas').keptTypes := by
  have hdeclared (associations? associations?' : Option Associations) :=
    List.rel_flatMap hschemas fun _ _ h => h.declaredTypes associations? associations?'
  rw [keptTypes_ofEnvelope, keptTypes_ofEnvelope, List.forall₂_map_left_iff,
    List.forall₂_map_right_iff]
  refine ((List.forall₂_and_left _ _).mpr ⟨fun declared => find?_of_mem_declaredTypes,
    forall₂_firstOfEach _ (fun _ _ hagree => hagree.name_eq) [] (hdeclared _ _)⟩).imp ?_
  rintro declared declared' ⟨hfirst, hagree⟩
  exact ⟨declared.1, hfirst, hagree⟩

/-- The models of schemas that differ in their associations agree besides untyped navigations. -/
theorem modelsAgree_ofEnvelope {root : Element}
    (hroot : (findSchemas root).toOption = some (envelope, schemas))
    (henvelope : EditedIn exchangeAssociations [] envelope envelope')
    (hschemas : List.Forall₂ SchemasDiffer schemas schemas') :
    ModelsAgree root (DocumentReading.ofEnvelope envelope schemas).model
      (DocumentReading.ofEnvelope envelope' schemas').model := by
  have hkept := forall₂_keptTypes envelope envelope' hschemas
  have hnames : (DocumentReading.ofEnvelope envelope schemas).keptTypes.map EntityType.name =
      (DocumentReading.ofEnvelope envelope' schemas').keptTypes.map EntityType.name :=
    map_eq_of_forall₂ hkept fun _ _ ⟨_, _, hagree⟩ => hagree.name_eq
  have hnamespace {a b : Element} (h : SchemasDiffer a b) :
      a.getText "Namespace" = b.getText "Namespace" :=
    (saysAlike_editedIn _ _).getText_eq h.2 (by decide) (by decide)
  have hcounts : (DocumentReading.ofEnvelope envelope schemas).schemas.map
        (fun reading => (reading.namespaceName, reading.namedTypes.length)) =
      (DocumentReading.ofEnvelope envelope' schemas').schemas.map
        fun reading => (reading.namespaceName, reading.namedTypes.length) := by
    rw [DocumentReading.schemas_ofEnvelope, DocumentReading.schemas_ofEnvelope, List.map_map,
      List.map_map]
    exact map_eq_of_forall₂ hschemas fun _ _ h =>
      Prod.ext (hnamespace h) h.namedTypes_length
  have hsets : (DocumentReading.ofEnvelope envelope schemas).schemas.flatMap (·.sets) =
      (DocumentReading.ofEnvelope envelope' schemas').schemas.flatMap (·.sets) := by
    rw [DocumentReading.schemas_ofEnvelope, DocumentReading.schemas_ofEnvelope, List.flatMap_map,
      List.flatMap_map, List.flatMap_def, List.flatMap_def]
    exact congrArg List.flatten (map_eq_of_forall₂ hschemas fun _ _ h => h.readSets_eq)
  exact {
    versions_eq := by
      simp only [DocumentReading.model, DocumentReading.ofEnvelope]
      exact versions_eq_of_exchanged henvelope
    namespaceName_eq := dominantNamespace_congr hcounts
    namespaces_eq := by
      have hfirst := congrArg (List.map Prod.fst) hcounts
      rw [List.map_map, List.map_map] at hfirst
      exact hfirst
    sets_eq := by
      simp only [DocumentReading.model, DocumentReading.setPlacements, hsets, hnames]
    types_agree := by
      simp only [declaration?, hroot, Option.bind_some]
      exact hkept }

/-- In the modern dialect associations are not even read. -/
theorem outcome_eq_of_isModern
    (henvelope : EditedIn exchangeAssociations [] envelope envelope')
    (hschemas : List.Forall₂ SchemasDiffer schemas schemas')
    (hmodern : (DocumentReading.ofEnvelope envelope schemas).model.isModern = true) :
    (DocumentReading.ofEnvelope envelope schemas).outcome =
      (DocumentReading.ofEnvelope envelope' schemas').outcome := by
  have hversions := versions_eq_of_exchanged henvelope
  have hprotocol : isModernVersion (Versions.ofRoot envelope).protocol = true := hmodern
  refine DocumentReading.outcome_congr ?_ ?_ ?_
  · simp only [DocumentReading.ofEnvelope, hversions]
  · simp only [DocumentReading.ofEnvelope, ← hversions, hprotocol, if_true]
  · simp only [DocumentReading.ofEnvelope, ← hversions, hprotocol, if_true]
    exact map_eq_of_forall₂ hschemas fun _ _ h => h.ofElement_eq

end Documents

/-- **Associations decide nothing but the types of navigations that declare none.** Two documents
that differ only in associations of their schemas both have models or both have none. The models are
equal in the modern dialect, and in the older one they agree besides the navigations without a type
of their own. -/
theorem parse_associations (root other : Element) (h : Edited exchangeAssociations [] root other)
    (hdistinct : ∀ type ∈ root.subtree, localName type.tag = "EntityType" →
      NavigationsDistinct type) :
    OutcomesRelated (DifferInUntyped root) root other := by
  refine outcomesRelated_of_rel ((saysAlike_editedIn exchangeAssociations []).outcome?_rel
    (S := List.Forall₂ (EditedIn exchangeAssociations ["Schema"]))
    (findsAlike_exchangeAssociations _ (by decide)) (fun hl => by cases hl <;> rfl)
    (fun hab => hab.findAll (by decide) (leavesAlone_exchangeAssociations (by decide) _))
    (.of_edited h) ?_)
  intro envelope schemas envelope' schemas' hroot henvelope hedited
  have hschemas := (List.forall₂_and_left _ _).mpr ⟨fun schema hschema type htype =>
    hdistinct type (mem_subtree_of_mem_findAll (mem_subtree_of_mem_findSchemas hroot hschema) htype)
      (localName_of_mem_lookup (by decide) htype), hedited⟩
  exact ⟨outcome_eq_of_isModern henvelope hschemas,
    modelsAgree_ofEnvelope hroot henvelope hschemas⟩

/-- A schema with a type that has two navigations, of which the second leaves its type to an
association, and with some elements after the type. -/
def navigationsBefore (rest : List Element) : Element :=
  .node "Schema" [] (
    .node "EntityType" [("Name", "Order")] [
      .node "NavigationProperty" [("Name", "Parent"), ("Type", " A.Order ")] [],
      .node "NavigationProperty" [("Name", "Child"), ("Relationship", "Tree"), ("ToRole", "Down")]
        []] :: rest)

/-- An association under the name that the second navigation asks for. -/
def treeAssociation : Element :=
  .node "Association" [("Name", "Tree")] [
    .node "End" [("Role", "Up"), ("Type", "B.Order")] [],
    .node "End" [("Role", "Down"), ("Type", "B.Order")] []]

/-- With the association the second navigation is kept, and without it dropped; the first one is the
same. -/
theorem parse_associations_tree :
    Edited exchangeAssociations [] (.node "Edmx" [] [navigationsBefore [treeAssociation]])
        (.node "Edmx" [] [navigationsBefore []]) ∧
      (∀ type ∈ (Element.node "Edmx" [] [navigationsBefore [treeAssociation]]).subtree,
        localName type.tag = "EntityType" → NavigationsDistinct type) ∧
        OutcomesRelated (DifferInUntyped (.node "Edmx" [] [navigationsBefore [treeAssociation]]))
            (.node "Edmx" [] [navigationsBefore [treeAssociation]])
            (.node "Edmx" [] [navigationsBefore []]) ∧
          [[treeAssociation], []].map (fun rest =>
              (outcome? (.node "Edmx" [] [navigationsBefore rest])).map
                (·.1.types.flatMap (·.navigations.map (·.type)))) =
            [some ["A.Order", "B.Order"], some ["A.Order"]] := by
  have hrefl : ∀ around elements, exchangeAssociations around elements elements := fun _ _ => rfl
  have hedited : Edited exchangeAssociations []
      (.node "Edmx" [] [navigationsBefore [treeAssociation]])
      (.node "Edmx" [] [navigationsBefore []]) := .head hrefl (.siblings hrefl rfl)
  exact ⟨hedited, by decide, parse_associations _ _ hedited (by decide), by decide⟩

/-! ### What associations must not hold -/

/-- A document of the modern dialect with a schema inside a type. -/
def schemaInType (below : List Element) : Element :=
  .node "Edmx" [("Version", "4.0")] [.node "Schema" [] [
    .node "EntityType" [("Name", "Order")] [
      .node "Schema" [] below, .node "Property" [("Name", "Id")] []]]]

/-- An association that holds a key. -/
def keyedAssociation : Element :=
  .node "Association" [] [.node "Key" [] [.node "PropertyRef" [("Name", "Id")] []]]

/-- Inside a type an association may give the type its key, even in the modern dialect. -/
theorem key_of_association :
    Edited (exchange isFreeAssociation) [] (schemaInType [keyedAssociation]) (schemaInType []) ∧
      (∀ type ∈ (schemaInType [keyedAssociation]).subtree, localName type.tag = "EntityType" →
        NavigationsDistinct type) ∧
        ¬OutcomesRelated (DifferInUntyped (schemaInType [keyedAssociation]))
          (schemaInType [keyedAssociation]) (schemaInType []) := by
  have hrefl : ∀ around elements, exchange isFreeAssociation around elements elements :=
    fun _ _ => rfl
  refine ⟨.head hrefl (.head hrefl (.head hrefl (.siblings hrefl rfl))), by decide, ?_⟩
  rintro ⟨hrel, -⟩
  have hmodern : (outcome? (schemaInType [keyedAssociation])).all (·.1.isModern) = true := by decide
  have hkeys : (outcome? (schemaInType [keyedAssociation])).map (·.1.types.map (·.keys)) ≠
      (outcome? (schemaInType [])).map (·.1.types.map (·.keys)) := by decide
  revert hrel hmodern hkeys
  generalize outcome? (schemaInType [keyedAssociation]) = outcome, outcome? (schemaInType []) = outcome'
  rintro (hdiffer | _) hmodern hkeys
  · exact hkeys (by rw [hdiffer.1 hmodern])
  · exact hkeys rfl

end ODataExplorer.Csdl
