import ODataExplorer.Proofs.Csdl.AssociationScan
import ODataExplorer.Proofs.Csdl.Edit

/-!
The order of schemas.

What a document comes to does not depend on the order of its schemas, nor on that of the types,
associations and containers in them, where no name is given twice: navigations may refer to
associations that come later, and sets to types that do. Main statement: moving such blocks moves the
types and sets of the model and changes none of them (`parse_rearranged`).

A lookup in the edited tree finds the same elements in another order (`EditedIn.matched_findAll`), so
each stage is shown to give the same up to order. The tables of associations are filled in another
order, too, and still answer alike, since no two associations answer to one name
(`navigationType?_rearranged`).
-/

namespace ODataExplorer.Csdl

open Xml Text

/-! ## Lists in another order -/

/-- Lists whose items are related one by one after one of them is put in another order. -/
def Matched {α β : Type} (R : α → β → Prop) (items : List α) (items' : List β) : Prop :=
  ∃ between, List.Forall₂ R items between ∧ between.Perm items'

section Matched

variable {α β γ : Type} {R : α → β → Prop} {items : List α} {items' : List β}

/-- What is read alike of related items is read in another order. -/
theorem Matched.map {read : α → γ} {read' : β → γ} (h : Matched R items items')
    (hread : ∀ a b, R a b → read a = read' b) : (items.map read).Perm (items'.map read') := by
  obtain ⟨between, hrelated, hperm⟩ := h
  rw [map_eq_of_forall₂ hrelated hread]
  exact hperm.map read'

theorem Matched.flatMap {read : α → List γ} {read' : β → List γ} (h : Matched R items items')
    (hread : ∀ a b, R a b → (read a).Perm (read' b)) :
    (items.flatMap read).Perm (items'.flatMap read') := by
  obtain ⟨between, hrelated, hperm⟩ := h
  refine List.Perm.trans ?_ (hperm.flatMap_right read')
  clear hperm
  induction hrelated with
  | nil => exact .nil
  | cons hfirst _ ih => exact (hread _ _ hfirst).append ih

end Matched

/-! ## Lookups in rearranged trees -/

variable {edit : Edit} {path : List String} {name : String} {a b : Element}

/-- An edit that changes nothing but the order of siblings. -/
def OnlyMoves (edit : Edit) : Prop :=
  ∀ around elements elements', edit around elements elements' → elements.Perm elements'

/-- An element and what an edit made of it, below the names of a path. -/
def EditedBelow (edit : Edit) (path : List String) (a b : Element) : Prop :=
  ∃ around, path.Sublist around ∧ Edited edit around a b

theorem EditedBelow.tag_eq (h : EditedBelow edit path a b) : a.tag = b.tag := by
  obtain ⟨_, -, hedited⟩ := h
  exact hedited.tag_eq

theorem perm_forest {elements elements' : List Element} (h : elements.Perm elements') :
    (Element.forest elements).Perm (Element.forest elements') := by
  rw [Element.forest_eq_flatMap, Element.forest_eq_flatMap]
  exact h.flatMap_right Element.subtree

mutual

theorem Edited.matched_subtree (hmoves : OnlyMoves edit) :
    ∀ {around : List String} {a b : Element}, path.Sublist around → Edited edit around a b →
      Matched (EditedBelow edit path) a.subtree b.subtree
  | around, _, _, hpath, @Edited.node _ _ tag attributes children _ children' below siblings => by
    have hinner : path.Sublist (localName tag :: around) := hpath.cons _
    -- what is below goes along one by one, until the children are moved with all that they hold
    obtain ⟨held, hrelated, hperm⟩ := EditedAll.matched_forest hmoves hinner below
    have hmoved := hperm.trans (perm_forest (hmoves _ _ _ siblings))
    exact ⟨.node tag attributes children' :: held,
      .cons ⟨around, hpath, .node below siblings⟩ hrelated, hmoved.cons _⟩

theorem EditedAll.matched_forest (hmoves : OnlyMoves edit) :
    ∀ {around : List String} {elements elements' : List Element}, path.Sublist around →
      EditedAll edit around elements elements' →
        Matched (EditedBelow edit path) (Element.forest elements) (Element.forest elements')
  | _, _, _, _, .nil => ⟨[], .nil, .nil⟩
  | _, _, _, hpath, .cons first others => by
    obtain ⟨held, hrelated, hperm⟩ := Edited.matched_subtree hmoves hpath first
    obtain ⟨held', hrelated', hperm'⟩ := EditedAll.matched_forest hmoves hpath others
    exact ⟨held ++ held', List.rel_append hrelated hrelated', hperm.append hperm'⟩

end

/-- **What is found in a tree is found in the rearranged one,** in another order. -/
theorem EditedIn.matched_findAll (hplain : IsPlain name) (hmoves : OnlyMoves edit)
    (h : EditedIn edit path a b) :
    Matched (EditedIn edit (name :: path)) (Csdl.findAll name a) (Csdl.findAll name b) := by
  obtain ⟨around, hpath, hedited⟩ := h
  cases hedited with
  | node below siblings =>
    obtain ⟨held, hrelated, hperm⟩ := EditedAll.matched_forest hmoves hpath below
    have hmoved := hperm.trans (perm_forest (hmoves _ _ _ siblings))
    refine ⟨lookup Element.tag name held, ?_, perm_lookup hmoved⟩
    have hfound : List.Forall₂ (EditedBelow edit path) (lookup Element.tag name _)
        (lookup Element.tag name held) := forall₂_lookup EditedBelow.tag_eq hrelated
    refine ((List.forall₂_and_left _ _).mpr
      ⟨fun _ => localName_of_mem_lookup hplain, hfound⟩).imp ?_
    rintro element element' ⟨hname, inner, hinner, hbelow⟩
    refine ⟨inner, ?_, hbelow⟩
    rw [hname]
    exact hinner.cons_cons name

/-! ## Answers in another order -/

/-- In a list with one answer at most, the order does not matter to the first answer. -/
theorem findSome?_id_perm {α : Type} {answers answers' : List (Option α)}
    (h : answers.Perm answers') (hone : answers.Pairwise fun a b => a = none ∨ b = none) :
    answers.findSome? id = answers'.findSome? id := by
  induction h with
  | nil => rfl
  | cons answer _ ih =>
    rw [List.findSome?_cons, List.findSome?_cons, ih (List.pairwise_cons.mp hone).2]
  | swap first second rest =>
    have hboth := (List.pairwise_cons.mp hone).1 first List.mem_cons_self
    rcases hboth with rfl | rfl
    · cases first <;> rfl
    · cases second <;> rfl
  | trans h _ ih ih' =>
    have hone' := (h.pairwise_iff fun hnone => hnone.symm).mp hone
    exact (ih hone).trans (ih' hone')

/-- The names that refer to an association in full. -/
def MetAssociation.fullNames (met : MetAssociation) : List String :=
  (qualifiers met.schema).map (· ++ "." ++ met.element.getText "Name")

/-- Two associations that have neither their names in common nor any of their full names. -/
def NamedApart (met met' : MetAssociation) : Prop :=
  met.element.getText "Name" ≠ met'.element.getText "Name" ∧
    ∀ name ∈ met.fullNames, name ∉ met'.fullNames

instance (met met' : MetAssociation) : Decidable (NamedApart met met') :=
  inferInstanceAs (Decidable (_ ∧ _))

theorem MetAssociation.mem_fullNames {met : MetAssociation} {relationship : String} :
    relationship ∈ met.fullNames ↔ met.hasFullName relationship = true := by
  rw [← any_qualifiers_eq_hasFullName, List.any_eq_true, fullNames, List.mem_map]
  simp only [beq_iff_eq]

/-- An association that answers can be used and is named. -/
theorem isUsable_of_offered? {isNamed : MetAssociation → Bool} {met : MetAssociation}
    {association : Association} (h : Associations.offered? isNamed met = some association) :
    isUsableAssociation met.element = true ∧ isNamed met = true := by
  rw [Associations.offered?] at h
  split at h
  · next hnamed =>
    refine ⟨?_, hnamed⟩
    cases husable : isUsableAssociation met.element with
    | true => rfl
    | false =>
      rw [Associations.read?, usable?_of_not_isUsable husable] at h
      cases h
  · cases h

/-- No question has two answers if no two usable associations share what it asks for. -/
theorem pairwise_offered? {schemas : List Element} {isNamed : MetAssociation → Bool}
    (h : (usableAssociations schemas).Pairwise fun met met' =>
      isNamed met = true → isNamed met' = false) :
    ((metAssociations schemas).map (Associations.offered? isNamed)).Pairwise
      fun answer answer' => answer = none ∨ answer' = none := by
  rw [usableAssociations, List.pairwise_filter] at h
  rw [List.pairwise_map]
  refine h.imp fun {met met'} hapart => ?_
  cases hfirst : Associations.offered? isNamed met with
  | none => exact .inl rfl
  | some _ =>
    cases hsecond : Associations.offered? isNamed met' with
    | none => exact .inr rfl
    | some _ =>
      obtain ⟨husable, hnamed⟩ := isUsable_of_offered? hfirst
      obtain ⟨husable', hnamed'⟩ := isUsable_of_offered? hsecond
      rw [hapart husable husable' hnamed] at hnamed'
      cases hnamed'

/-! ## Blocks that are moved -/

/-- The names of the blocks of a schema. -/
def blockNames : List String := ["EntityType", "Association", "EntityContainer"]

/-- A schema, or a block inside one. -/
def isBlock (around : List String) (element : Element) : Bool :=
  localName element.tag == "Schema" ||
    around.contains "Schema" && blockNames.contains (localName element.tag)

/-- A block that holds neither an envelope nor what declares the version inside it. Inside a type it
spares the keys, too. -/
def isMovable (around : List String) (element : Element) : Bool :=
  isBlock around element && holdsNone [envelopeName, "DataServices"] element &&
    sparesKeys around element

/-- The edit that moves schemas among their siblings, and blocks inside schemas among theirs. -/
def rearrangeBlocks : Edit := rearrange isMovable

theorem onlyMoves_rearrangeBlocks : OnlyMoves rearrangeBlocks := fun _ _ _ h => h.1

theorem localName_of_isMovable {around : List String} {element : Element}
    (h : isMovable around element = true) : localName element.tag ∈ "Schema" :: blockNames := by
  rw [isMovable, Bool.and_eq_true, Bool.and_eq_true, isBlock, Bool.or_eq_true,
    Bool.and_eq_true] at h
  obtain hschema | ⟨-, hblock⟩ := h.1.1
  · exact List.mem_cons.mpr (.inl (eq_of_beq hschema))
  · exact List.mem_cons_of_mem _ (List.contains_iff_mem.mp hblock)

theorem findsAlike_rearrangeBlocks {name : String} (path : List String)
    (h : name ∈ [envelopeName, "DataServices"]) :
    FindsAlike (EditedIn rearrangeBlocks path) name := by
  have hplain : ∀ name ∈ [envelopeName, "DataServices"], IsPlain name := by decide
  refine findsAlike_editedIn (hplain name h)
    (leavesAlone_of_loose (editsOnly_rearrange _) fun around _ e he below hbelow => ?_)
  rw [isMovable, Bool.and_eq_true, Bool.and_eq_true] at he
  exact localName_ne_of_holdsNone he.1.2 h hbelow

theorem holdsAlike_rearrangeBlocks {name : String} (path : List String)
    (h : name ∉ "Schema" :: blockNames) : HoldsAlike (EditedIn rearrangeBlocks path) name :=
  holdsAlike_editedIn (leavesSiblingsAlone_of_loose (editsOnly_rearrange _)
    fun _ _ _ he heq => h (heq ▸ localName_of_isMovable he))

theorem typesAlike_rearrangeBlocks : TypesAlike (EditedIn rearrangeBlocks typePath) := by
  have hchild : ∀ name ∈ "Schema" :: blockNames, name ∉ childNames := by decide
  exact typesAlike_editedIn (editsOnly_rearrange _) (fun _ _ he => (Bool.and_eq_true_iff.mp he).2)
    fun _ _ he => hchild _ (localName_of_isMovable he)

/-! ## Associations -/

section Associations

variable {schema schema' element element' : Element} {schemas schemas' : List Element}

theorem hasName_rearranged (he : EditedIn rearrangeBlocks ["Association", "Schema"] element element')
    (bareName : String) :
    (⟨schema, element⟩ : MetAssociation).hasName bareName =
      (⟨schema', element'⟩ : MetAssociation).hasName bareName := by
  have hname := (saysAlike_editedIn _ _).getText_eq he (by decide : IsPlain "Name") (by decide)
  rw [MetAssociation.hasName, hname, MetAssociation.hasName]

theorem hasFullName_rearranged (hs : EditedIn rearrangeBlocks ["Schema"] schema schema')
    (he : EditedIn rearrangeBlocks ["Association", "Schema"] element element')
    (relationship : String) :
    (⟨schema, element⟩ : MetAssociation).hasFullName relationship =
      (⟨schema', element'⟩ : MetAssociation).hasFullName relationship := by
  have hname := (saysAlike_editedIn _ _).getText_eq he (by decide : IsPlain "Name") (by decide)
  have hnamespace :=
    (saysAlike_editedIn _ _).getText_eq hs (by decide : IsPlain "Namespace") (by decide)
  have halias := (saysAlike_editedIn _ _).getText_eq hs (by decide : IsPlain "Alias") (by decide)
  simp only [MetAssociation.hasFullName, List.any_cons, List.any_nil, hname, hnamespace, halias]

/-- Schemas in another order give the same first answer, if the question is asked alike of them and
has one answer at most. -/
theorem findSome?_offered?_rearranged {isNamed : MetAssociation → Bool}
    (h : Matched (EditedIn rearrangeBlocks ["Schema"]) schemas schemas')
    (hnamed : ∀ {schema schema' element element'},
      EditedIn rearrangeBlocks ["Schema"] schema schema' →
        EditedIn rearrangeBlocks ["Association", "Schema"] element element' →
          isNamed ⟨schema, element⟩ = isNamed ⟨schema', element'⟩)
    (hone : (usableAssociations schemas).Pairwise fun met met' =>
      isNamed met = true → isNamed met' = false) :
    (metAssociations schemas).findSome? (Associations.offered? isNamed) =
      (metAssociations schemas').findSome? (Associations.offered? isNamed) := by
  have hread {schema schema' element element' : Element}
      (hs : EditedIn rearrangeBlocks ["Schema"] schema schema')
      (he : EditedIn rearrangeBlocks ["Association", "Schema"] element element') :
      Associations.offered? isNamed ⟨schema, element⟩ =
        Associations.offered? isNamed ⟨schema', element'⟩ := by
    have helement := (saysAlike_editedIn _ _).associationReading_eq
      (holdsAlike_rearrangeBlocks _ (by decide)) he
    rw [Associations.offered?, Associations.offered?, hnamed hs he, Associations.read?, helement,
      Associations.read?]
  have hperm : ((metAssociations schemas).map (Associations.offered? isNamed)).Perm
      ((metAssociations schemas').map (Associations.offered? isNamed)) := by
    rw [metAssociations, metAssociations, List.map_flatMap, List.map_flatMap]
    refine h.flatMap fun schema schema' hs => ?_
    rw [List.map_map, List.map_map]
    exact (hs.matched_findAll (by decide) onlyMoves_rearrangeBlocks).map fun _ _ => hread hs
  have hanswer := findSome?_id_perm hperm (pairwise_offered? hone)
  rw [List.findSome?_map, List.findSome?_map] at hanswer
  exact hanswer

/-- The tables are filled in another order and answer alike. -/
theorem find?_rearranged (h : Matched (EditedIn rearrangeBlocks ["Schema"]) schemas schemas')
    (hapart : (usableAssociations schemas).Pairwise NamedApart) (relationship : String) :
    (Associations.ofSchemas schemas).find? relationship =
      (Associations.ofSchemas schemas').find? relationship := by
  have hfull := findSome?_offered?_rearranged h
    (fun hs he => hasFullName_rearranged hs he relationship) <|
      hapart.imp fun {met met'} hnames hmet =>
        Bool.eq_false_iff.mpr fun hmet' => hnames.2 relationship
          (MetAssociation.mem_fullNames.mpr hmet) (MetAssociation.mem_fullNames.mpr hmet')
  have hbare (bareName : String) := findSome?_offered?_rearranged h
    (fun _ he => hasName_rearranged he bareName) <|
      hapart.imp fun {met met'} hnames hmet =>
        Bool.eq_false_iff.mpr fun hmet' => hnames.1 ((eq_of_beq hmet).trans (eq_of_beq hmet').symm)
  have hqualified (schemas : List Element) :=
    (Associations.lookup_foldl_addMet relationship (metAssociations schemas) {}).1
  have hlast (bareName : String) (schemas : List Element) :=
    (Associations.lookup_foldl_addMet bareName (metAssociations schemas) {}).2
  rw [Associations.find?, Associations.find?, Associations.ofSchemas_eq_foldl,
    Associations.ofSchemas_eq_foldl, hqualified, hqualified, hlast, hlast, hfull, hbare]

/-- A navigation is given the same type by schemas in another order. -/
theorem navigationType?_rearranged
    (h : Matched (EditedIn rearrangeBlocks ["Schema"]) schemas schemas')
    (hapart : (usableAssociations schemas).Pairwise NamedApart) :
    navigationType? (some (Associations.ofSchemas schemas)) =
      navigationType? (some (Associations.ofSchemas schemas')) := by
  funext navigation
  simp only [navigationType?, Option.bind_some, Associations.resolve?, find?_rearranged h hapart]

end Associations

/-! ## Schemas -/

section Schemas

variable {associations? associations?' : Option Associations}

theorem perm_namedTypes_rearranged
    (hanswers : navigationType? associations? = navigationType? associations?')
    (h : EditedIn rearrangeBlocks ["Schema"] a b) :
    (SchemaReading.ofElement associations? a).namedTypes.Perm
      (SchemaReading.ofElement associations?' b).namedTypes := by
  have hnamespace :=
    (saysAlike_editedIn _ _).getText_eq h (by decide : IsPlain "Namespace") (by decide)
  have hfound : Matched (EditedIn rearrangeBlocks typePath) (findAll "EntityType" a)
      (findAll "EntityType" b) := h.matched_findAll (by decide) onlyMoves_rearrangeBlocks
  have hread := hfound.map fun _ _ => typesAlike_rearrangeBlocks.typeReading_eq hanswers
    (a.getText "Namespace")
  rw [SchemaReading.namedTypes, SchemaReading.namedTypes, SchemaReading.ofElement,
    SchemaReading.ofElement, ← hnamespace]
  exact hread.filterMap id

theorem perm_readSets_rearranged (h : EditedIn rearrangeBlocks ["Schema"] a b) :
    (SchemaReading.readSets a).Perm (SchemaReading.readSets b) := by
  have hfound := h.matched_findAll (by decide : IsPlain "EntityContainer") onlyMoves_rearrangeBlocks
  refine hfound.flatMap fun _ _ hcontainer => .of_eq ?_
  exact map_eq_of_forall₂ (holdsAlike_rearrangeBlocks _ (by decide) hcontainer) fun _ _ =>
    (saysAlike_editedIn _ _).readSet_eq

end Schemas

/-! ## Documents -/

/-- Outcomes that are the same up to the order of types and sets. The types themselves are the same,
with all that belongs to them. -/
structure SameUpToOrder (outcome outcome' : Model × Session) : Prop where
  versions_eq : outcome.1.versions = outcome'.1.versions
  types_perm : outcome.1.types.Perm outcome'.1.types
  sets_perm : outcome.1.sets.Perm outcome'.1.sets
  dropped_eq : outcome.2.dropped = outcome'.2.dropped

/-- A document in which no two types share a name, and no two usable associations a name or a full
name. -/
def IsUnambiguous (root : Element) : Prop :=
  ∀ reading, readTree root = .ok reading →
    (reading.types.map (·.name)).Nodup ∧
      (usableAssociations reading.schemaElements).Pairwise NamedApart

instance (root : Element) : Decidable (IsUnambiguous root) :=
  match hread : readTree root with
  | .ok reading =>
    decidable_of_iff ((reading.types.map (·.name)).Nodup ∧
        (usableAssociations reading.schemaElements).Pairwise NamedApart)
      ⟨fun h _ hother => Except.ok.inj (hread.symm.trans hother) ▸ h, fun h => h reading hread⟩
  | .error _ => .isTrue fun _ hother => nomatch hread.symm.trans hother

section Documents

variable {envelope envelope' : Element} {schemas schemas' : List Element}

theorem keptTypes_eq_map {reading : DocumentReading} (h : (reading.types.map (·.name)).Nodup) :
    reading.keptTypes = reading.types.map (·.entityType) := by
  rw [DocumentReading.keptTypes_eq, firstOfEach_eq_self]
  · rw [List.map_map]
    exact h
  · exact fun _ _ => List.not_mem_nil

/-- Readings with the same types and sets in another order are the same up to order. -/
theorem sameUpToOrder_outcome {reading reading' : DocumentReading}
    (hversions : reading.versions = reading'.versions) (htypes : reading.types.Perm reading'.types)
    (hsets : (reading.schemas.flatMap (·.sets)).Perm (reading'.schemas.flatMap (·.sets)))
    (hdistinct : (reading.types.map (·.name)).Nodup) :
    SameUpToOrder reading.outcome reading'.outcome := by
  have hdistinct' := ((htypes.map (·.name)).nodup_iff).mp hdistinct
  have hkept : reading.keptTypes.Perm reading'.keptTypes := by
    rw [keptTypes_eq_map hdistinct, keptTypes_eq_map hdistinct']
    exact htypes.map _
  have hplaced : placeSet (reading.keptTypes.map (·.name)) =
      placeSet (reading'.keptTypes.map (·.name)) := by
    funext set
    simp only [placeSet, (hkept.map EntityType.name).contains_eq]
  exact {
    versions_eq := hversions
    types_perm := hkept
    sets_perm := by
      show (reading.setPlacements.filterMap _).Perm (reading'.setPlacements.filterMap _)
      rw [DocumentReading.setPlacements, DocumentReading.setPlacements, hplaced]
      exact (hsets.map _).filterMap _
    dropped_eq := (htypes.map TypeReading.droppedCount).sum_nat }

/-- Schemas in another order come to the same up to order. -/
theorem sameUpToOrder_ofEnvelope
    (henvelope : EditedIn rearrangeBlocks [] envelope envelope')
    (hschemas : Matched (EditedIn rearrangeBlocks ["Schema"]) schemas schemas')
    (hdistinct : ((DocumentReading.ofEnvelope envelope schemas).types.map (·.name)).Nodup)
    (hapart : (usableAssociations schemas).Pairwise NamedApart) :
    SameUpToOrder (DocumentReading.ofEnvelope envelope schemas).outcome
      (DocumentReading.ofEnvelope envelope' schemas').outcome := by
  have hversions : Versions.ofRoot envelope = Versions.ofRoot envelope' :=
    (saysAlike_editedIn _ _).versions_eq (findsAlike_rearrangeBlocks _ (by decide)) henvelope
  have hanswers :
      navigationType? (DocumentReading.ofEnvelope envelope schemas).associations? =
        navigationType? (DocumentReading.ofEnvelope envelope' schemas').associations? := by
    simp only [DocumentReading.ofEnvelope, ← hversions]
    split
    · rfl
    · exact navigationType?_rearranged hschemas hapart
  refine sameUpToOrder_outcome ?_ ?_ ?_ hdistinct
  · simp only [DocumentReading.ofEnvelope, hversions]
  · rw [DocumentReading.types, DocumentReading.types, DocumentReading.schemas_ofEnvelope,
      DocumentReading.schemas_ofEnvelope, List.flatMap_map, List.flatMap_map]
    exact hschemas.flatMap fun _ _ => perm_namedTypes_rearranged hanswers
  · rw [DocumentReading.schemas_ofEnvelope, DocumentReading.schemas_ofEnvelope, List.flatMap_map,
      List.flatMap_map]
    exact hschemas.flatMap fun _ _ => perm_readSets_rearranged

end Documents

/-- **The order of schemas, and of the blocks in them, does not matter** where no two types and no
two associations can be taken for each other: the types and sets of a model come in another order,
and all else is the same. -/
theorem parse_rearranged (root other : Element) (h : Edited rearrangeBlocks [] root other)
    (hunambiguous : IsUnambiguous root) : OutcomesRelated SameUpToOrder root other := by
  refine outcomesRelated_of_rel ((saysAlike_editedIn rearrangeBlocks []).outcome?_rel
    (S := Matched (EditedIn rearrangeBlocks ["Schema"]))
    (findsAlike_rearrangeBlocks _ (by decide))
    (fun hmatched => by
      obtain ⟨between, hrelated, hperm⟩ := hmatched
      rw [← hperm.isEmpty_eq]
      cases hrelated <;> rfl)
    (fun hab => hab.matched_findAll (by decide) onlyMoves_rearrangeBlocks) (.of_edited h) ?_)
  intro envelope schemas envelope' schemas' hroot henvelope hschemas
  obtain ⟨hdistinct, hapart⟩ := hunambiguous _ (readTree_of_findSchemas hroot)
  exact sameUpToOrder_ofEnvelope henvelope hschemas hdistinct hapart

/-- A schema with a type, and the set of it before the type or after. -/
def typeSchema (setFirst : Bool) : Element :=
  let container := .node "EntityContainer" [] [
    .node "EntitySet" [("Name", "Orders"), ("EntityType", "A.Order")] []]
  let type := .node "EntityType" [("Name", "Order")] [
    .node "NavigationProperty" [("Name", "Parent"), ("Relationship", "B.Tree"), ("ToRole", "Up")] []]
  .node "Schema" [("Namespace", "A")] (if setFirst then [container, type] else [type, container])

/-- A schema with the association that the type asks for. -/
def associationSchema : Element :=
  .node "Schema" [("Namespace", "B")] [
    .node "Association" [("Name", "Tree")] [
      .node "End" [("Role", "Up"), ("Type", "A.Order")] [],
      .node "End" [("Role", "Down"), ("Type", "A.Order")] []]]

/-- A set may come before its type, and an association after the navigation that asks for it. -/
theorem parse_rearranged_forward :
    Edited rearrangeBlocks [] (.node "Edmx" [] [typeSchema true, associationSchema])
        (.node "Edmx" [] [associationSchema, typeSchema false]) ∧
      IsUnambiguous (.node "Edmx" [] [typeSchema true, associationSchema]) ∧
        OutcomesRelated SameUpToOrder (.node "Edmx" [] [typeSchema true, associationSchema])
            (.node "Edmx" [] [associationSchema, typeSchema false]) ∧
          (outcome? (.node "Edmx" [] [typeSchema true, associationSchema])).map
            (fun outcome => (outcome.1.types.flatMap (·.navigations.map (·.type)),
              outcome.1.sets.map (·.name))) = some (["A.Order"], ["Orders"]) := by
  have hrefl : ∀ around elements, rearrangeBlocks around elements elements :=
    fun _ _ => ⟨.refl _, rfl⟩
  have hinner : Edited rearrangeBlocks [localName "Edmx"] (typeSchema true) (typeSchema false) :=
    .siblings hrefl ⟨.swap _ _ [], rfl⟩
  have hedited : Edited rearrangeBlocks [] (.node "Edmx" [] [typeSchema true, associationSchema])
      (.node "Edmx" [] [associationSchema, typeSchema false]) :=
    .node (.cons hinner (.cons (Edited.refl hrefl _ _) .nil)) ⟨.swap _ _ [], rfl⟩
  have hunambiguous : IsUnambiguous (.node "Edmx" [] [typeSchema true, associationSchema]) := by
    decide
  exact ⟨hedited, hunambiguous, parse_rearranged _ _ hedited hunambiguous, by decide⟩

/-! ### What blocks must not hold -/

/-- A document with its blocks in another order. No schema is inside another one, and nothing can be
taken for anything else. -/
structure IsReordered (root other : Element) : Prop where
  edited : Edited (rearrange isBlock) [] root other
  schemas_apart : ∀ schema ∈ root.subtree, localName schema.tag = "Schema" →
    ∀ below ∈ schema.descendants, localName below.tag ≠ "Schema"
  unambiguous : IsUnambiguous root

/-- A schema that holds the element which declares the version. -/
def servicesSchema (version : String) : Element :=
  .node "Schema" [] [.node "DataServices" [("DataServiceVersion", version)] []]

/-- A tree with an envelope between two schemas. -/
def envelopeBetween (first second : Element) : Element :=
  .node "Wrapper" [] [first, .node "Edmx" [] [.node "Schema" [] []], second]

/-- A schema that holds an envelope. -/
def envelopeSchema : Element := .node "Schema" [] [.node "Edmx" [] []]

/-- A type without a name that refers to a property as its key. -/
def keyedType (property : String) : Element :=
  .node "EntityType" [] [.node "Key" [] [.node "PropertyRef" [("Name", property)] []]]

/-- A type with two properties, and with types below it. -/
def typeAround (below : List Element) : Element :=
  .node "Edmx" [] [.node "Schema" [] [.node "EntityType" [("Name", "Order")] (below ++ [
    .node "Property" [("Name", "Id")] [], .node "Property" [("Name", "Code")] []])]]

/-- The order shows where blocks hold what is looked for above them: the element that declares the
version, an envelope, or the key of a type. -/
theorem order_shows :
    (IsReordered (.node "Edmx" [("Version", "1.0")] [servicesSchema "2.0", servicesSchema "3.0"])
          (.node "Edmx" [("Version", "1.0")] [servicesSchema "3.0", servicesSchema "2.0"]) ∧
        ¬OutcomesRelated SameUpToOrder
          (.node "Edmx" [("Version", "1.0")] [servicesSchema "2.0", servicesSchema "3.0"])
          (.node "Edmx" [("Version", "1.0")] [servicesSchema "3.0", servicesSchema "2.0"])) ∧
      (IsReordered (envelopeBetween envelopeSchema (.node "Schema" [] []))
          (envelopeBetween (.node "Schema" [] []) envelopeSchema) ∧
        ¬OutcomesRelated SameUpToOrder (envelopeBetween envelopeSchema (.node "Schema" [] []))
          (envelopeBetween (.node "Schema" [] []) envelopeSchema)) ∧
      (IsReordered (typeAround [keyedType "Id", keyedType "Code"])
          (typeAround [keyedType "Code", keyedType "Id"]) ∧
        ¬OutcomesRelated SameUpToOrder (typeAround [keyedType "Id", keyedType "Code"])
          (typeAround [keyedType "Code", keyedType "Id"])) := by
  have hsame {root other : Element} (h : OutcomesRelated SameUpToOrder root other) :
      (outcome? root).map (fun outcome =>
          (outcome.1.versions, outcome.1.types.any (·.keys.contains "Id"))) =
        (outcome? other).map fun outcome =>
          (outcome.1.versions, outcome.1.types.any (·.keys.contains "Id")) := by
    obtain ⟨hrel, -⟩ := h
    revert hrel
    generalize outcome? root = outcome, outcome? other = outcome'
    rintro (hsame | _)
    · rw [Option.map_some, Option.map_some, hsame.versions_eq, hsame.types_perm.any_eq]
    · rfl
  have hrefl : ∀ around elements, rearrange isBlock around elements elements :=
    fun _ _ => ⟨.refl _, rfl⟩
  refine ⟨⟨⟨?_, by decide, by decide⟩, fun h => absurd (hsame h) (by decide)⟩,
    ⟨⟨?_, by decide, by decide⟩, fun h => absurd (hsame h) (by decide)⟩,
    ⟨⟨?_, by decide, by decide⟩, fun h => absurd (hsame h) (by decide)⟩⟩
  · exact .siblings hrefl ⟨.swap _ _ [], rfl⟩
  · exact .siblings hrefl ⟨(List.reverse_perm _).symm, rfl⟩
  · exact .head hrefl (.head hrefl (.siblings hrefl ⟨.swap _ _ _, rfl⟩))

end ODataExplorer.Csdl
