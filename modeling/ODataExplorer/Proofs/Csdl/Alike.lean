import ODataExplorer.Proofs.Csdl.Kept
import ODataExplorer.Proofs.Csdl.Structure
import ODataExplorer.Proofs.Csdl.Unqualified

/-!
Elements that are read alike.

A reading asks an element for its attributes, for the children of a name and for what it holds of a
name at any depth, and for nothing else. Two trees that answer alike are therefore read alike. A
relation between elements says which answers those are: related elements say the same of themselves
(`SaysAlike`), and what they hold of a name is again related, one by one, at any depth
(`FindsAlike`) or among children (`HoldsAlike`).

There is one lemma for each stage of the reading, and it asks for the names only that the stage looks
for. A relation that respects all of them is one that no document shows (`ReadsAlike.outcome?_eq`).
-/

namespace ODataExplorer.Csdl

open Xml Text

/-! ## Relations that a reading respects -/

/-- Related elements have one local name and say the same of themselves. -/
structure SaysAlike (R : Element → Element → Prop) : Prop where
  localName_eq : ∀ {a b : Element}, R a b → localName a.tag = localName b.tag
  get?_eq : ∀ {a b : Element} {name : String}, R a b → IsPlain name → name ≠ versionName →
    a.get? name = b.get? name
  version_eq : ∀ {a b : Element}, R a b →
    attributeByLocalName? versionName a = attributeByLocalName? versionName b

/-- What related elements hold of a name at any depth is related, one by one. -/
def FindsAlike (R : Element → Element → Prop) (name : String) : Prop :=
  ∀ ⦃a b : Element⦄, R a b → List.Forall₂ R (findAll name a) (findAll name b)

/-- What children of a name related elements have is related, one by one. -/
def HoldsAlike (R : Element → Element → Prop) (name : String) : Prop :=
  ∀ ⦃a b : Element⦄, R a b → List.Forall₂ R (childrenNamed name a) (childrenNamed name b)

variable {R : Element → Element → Prop} {a b : Element} {elements elements' : List Element}
  {associations? associations?' : Option Associations}

/-- What is read alike of related items is read alike of related lists. -/
theorem map_eq_of_forall₂ {α β γ : Type} {P : α → β → Prop} {read : α → γ} {read' : β → γ}
    {items : List α} {items' : List β} (h : List.Forall₂ P items items')
    (hread : ∀ a b, P a b → read a = read' b) : items.map read = items'.map read' := by
  induction h with
  | nil => rfl
  | cons hfirst _ ih => rw [List.map_cons, List.map_cons, hread _ _ hfirst, ih]

theorem FindsAlike.findFirst? {name : String} (h : FindsAlike R name) (hR : R a b) :
    Option.Rel R (findFirst? name a) (findFirst? name b) := by
  have hfound := h hR
  rw [Csdl.findFirst?, Csdl.findFirst?]
  generalize findAll name a = found, findAll name b = found' at hfound ⊢
  cases hfound with
  | nil => exact .none
  | cons hfirst _ => exact .some hfirst

namespace SaysAlike

theorem getText_eq {name : String} (h : SaysAlike R) (hR : R a b) (hplain : IsPlain name)
    (hne : name ≠ versionName) : a.getText name = b.getText name := by
  rw [Element.getText, h.get?_eq hR hplain hne, Element.getText]

/-! ## Properties and keys -/

theorem readProperty_eq (h : SaysAlike R) (hR : R a b) : readProperty a = readProperty b := by
  unfold readProperty
  simp (disch := decide) only [h.getText_eq hR, h.get?_eq hR]

theorem readProperties_eq (h : SaysAlike R) (hproperty : HoldsAlike R "Property") (hR : R a b) :
    readProperties a = readProperties b := by
  rw [readProperties, readProperties, keepProperties_eq, keepProperties_eq,
    map_eq_of_forall₂ (hproperty hR) fun _ _ => h.readProperty_eq]

theorem judgeKeys_eq (h : SaysAlike R) (declared kept : List String)
    (hR : List.Forall₂ R elements elements') :
    judgeKeys declared kept elements = judgeKeys declared kept elements' := by
  induction hR generalizing kept with
  | nil => rfl
  | cons hfirst _ ih =>
    rw [judgeKeys, judgeKeys, h.get?_eq hfirst (by decide) (by decide)]
    simp only [ih]

theorem readKeys_eq (h : SaysAlike R) (hkey : FindsAlike R "Key")
    (hreference : FindsAlike R "PropertyRef") (declared : List String) (hR : R a b) :
    readKeys declared a = readKeys declared b := by
  have hreferences : List.Forall₂ R (keyReferences a) (keyReferences b) := by
    have hfirst := hkey.findFirst? hR
    unfold keyReferences
    generalize findFirst? "Key" a = key?, findFirst? "Key" b = key?' at hfirst ⊢
    cases hfirst with
    | none => exact .nil
    | some hkeys => exact hreference hkeys
  exact h.judgeKeys_eq declared [] hreferences

/-! ## Navigations -/

theorem readConstraint?_eq (h : SaysAlike R) (hconstraint : HoldsAlike R "ReferentialConstraint")
    (hR : R a b) : readConstraint? a = readConstraint? b := by
  have hconstraints := hconstraint hR
  unfold readConstraint?
  generalize childrenNamed "ReferentialConstraint" a = l,
    childrenNamed "ReferentialConstraint" b = l' at hconstraints ⊢
  induction hconstraints with
  | nil => rfl
  | cons hfirst _ ih =>
    rw [List.findSome?_cons, List.findSome?_cons, ih]
    simp (disch := decide) only [h.getText_eq hfirst]

theorem navigationType?_eq (h : SaysAlike R) (hR : R a b) :
    navigationType? associations? a = navigationType? associations? b := by
  unfold navigationType?
  simp (disch := decide) only [h.getText_eq hR]

theorem judgeNavigations_eq (h : SaysAlike R) (hconstraint : HoldsAlike R "ReferentialConstraint")
    (hanswers : navigationType? associations? = navigationType? associations?')
    (kept : List String) (hR : List.Forall₂ R elements elements') :
    judgeNavigations associations? kept elements =
      judgeNavigations associations?' kept elements' := by
  induction hR generalizing kept with
  | nil => rfl
  | cons hfirst _ ih =>
    rw [judgeNavigations, judgeNavigations, h.getText_eq hfirst (by decide) (by decide),
      h.navigationType?_eq hfirst, hanswers, h.readConstraint?_eq hconstraint hfirst]
    simp only [ih]

/-! ## Sets -/

theorem readSet_eq (h : SaysAlike R) (hR : R a b) :
    SchemaReading.readSet a = SchemaReading.readSet b := by
  unfold SchemaReading.readSet
  simp (disch := decide) only [h.getText_eq hR]

theorem readSets_eq (h : SaysAlike R) (hcontainer : FindsAlike R "EntityContainer")
    (hset : HoldsAlike R "EntitySet") (hR : R a b) :
    SchemaReading.readSets a = SchemaReading.readSets b := by
  rw [SchemaReading.readSets, SchemaReading.readSets, List.flatMap_def, List.flatMap_def]
  refine congrArg List.flatten (map_eq_of_forall₂ (hcontainer hR) fun _ _ hbelow => ?_)
  exact map_eq_of_forall₂ (hset hbelow) fun _ _ => h.readSet_eq

/-! ## Associations -/

theorem readEnd?_eq (h : SaysAlike R) (hR : R a b) : readEnd? a = readEnd? b := by
  unfold readEnd? endTarget?
  simp (disch := decide) only [h.getText_eq hR]

theorem associationReading_eq (h : SaysAlike R) (hend : HoldsAlike R "End") (hR : R a b) :
    AssociationReading.ofElement a = AssociationReading.ofElement b := by
  have hread : readAssociation? a = readAssociation? b := by
    have hends := hend hR
    unfold readAssociation?
    generalize childrenNamed "End" a = ends, childrenNamed "End" b = ends' at hends ⊢
    cases hends with
    | nil => rfl
    | cons hfirst hrest =>
      cases hrest with
      | nil => rfl
      | cons hsecond hrest =>
        cases hrest with
        | nil => simp only [h.readEnd?_eq hfirst, h.readEnd?_eq hsecond]
        | cons _ _ => rfl
  unfold AssociationReading.ofElement
  rw [h.getText_eq hR (by decide) (by decide), hread]

theorem addSchema_eq (h : SaysAlike R) (hassociation : FindsAlike R "Association")
    (hend : HoldsAlike R "End") (associations : Associations) (hR : R a b) :
    associations.addSchema a = associations.addSchema b := by
  unfold Associations.addSchema associationReadings qualifiers
  rw [map_eq_of_forall₂ (hassociation hR) fun _ _ => h.associationReading_eq hend]
  simp (disch := decide) only [h.getText_eq hR]

theorem ofSchemas_eq (h : SaysAlike R) (hassociation : FindsAlike R "Association")
    (hend : HoldsAlike R "End") (hR : List.Forall₂ R elements elements') :
    Associations.ofSchemas elements = Associations.ofSchemas elements' := by
  have hfold (associations : Associations) :
      elements.foldl (fun associations schema => associations.addSchema schema) associations =
        elements'.foldl (fun associations schema => associations.addSchema schema) associations := by
    induction hR generalizing associations with
    | nil => rfl
    | cons hfirst _ ih =>
      rw [List.foldl_cons, List.foldl_cons, h.addSchema_eq hassociation hend associations hfirst, ih]
  exact hfold {}

/-! ## Documents -/

theorem versions_eq (h : SaysAlike R) (hservices : FindsAlike R "DataServices") (hR : R a b) :
    Versions.ofRoot a = Versions.ofRoot b := by
  have hinner : innerVersion? a = innerVersion? b := by
    have hfirst := hservices.findFirst? hR
    unfold innerVersion?
    generalize findFirst? "DataServices" a = services?, findFirst? "DataServices" b = services?'
      at hfirst ⊢
    cases hfirst with
    | none => rfl
    | some hservices =>
      have hversion := h.version_eq hservices
      rw [versionName] at hversion
      simp only [Option.bind_eq_bind, Option.bind_some, hversion]
  unfold Versions.ofRoot
  rw [h.getText_eq hR (by decide) (by decide), hinner]

/-- The envelopes of related trees are related, and their schemas in whatever way the schemas of
related envelopes are. -/
theorem findSchemas_rel {S : List Element → List Element → Prop} (h : SaysAlike R)
    (henvelope : FindsAlike R envelopeName)
    (hempty : ∀ {l l'}, S l l' → l.isEmpty = l'.isEmpty)
    (hschemas : ∀ {a b}, R a b → S (findAll "Schema" a) (findAll "Schema" b)) (hR : R a b) :
    Option.Rel (fun found found' => R found.1 found'.1 ∧ S found.2 found'.2)
      (findSchemas a).toOption (findSchemas b).toOption := by
  have hfound : Option.Rel R (findEnvelope a).toOption (findEnvelope b).toOption := by
    have hfirst := henvelope.findFirst? hR
    unfold findEnvelope
    rw [h.localName_eq hR]
    generalize findFirst? envelopeName a = envelope?, findFirst? envelopeName b = envelope?'
      at hfirst ⊢
    split
    · exact .some hR
    · cases hfirst with
      | none => exact .none
      | some henvelopes => exact .some henvelopes
  rw [toOption_findSchemas, toOption_findSchemas]
  generalize (findEnvelope a).toOption = envelope?, (findEnvelope b).toOption = envelope?'
    at hfound ⊢
  cases hfound with
  | none => exact .none
  | some henvelopes =>
    have hS := hschemas henvelopes
    simp only [Option.bind_some, hempty hS]
    split
    · exact .none
    · exact .some ⟨henvelopes, hS⟩

/-- Related trees come to whatever related envelopes with related schemas come to. -/
theorem outcome?_rel {S : List Element → List Element → Prop}
    {P : Model × Session → Model × Session → Prop} (h : SaysAlike R)
    (henvelope : FindsAlike R envelopeName)
    (hempty : ∀ {l l'}, S l l' → l.isEmpty = l'.isEmpty)
    (hschemas : ∀ {a b}, R a b → S (findAll "Schema" a) (findAll "Schema" b)) (hR : R a b)
    (houtcome : ∀ envelope schemas envelope' schemas',
      (findSchemas a).toOption = some (envelope, schemas) → R envelope envelope' →
        S schemas schemas' →
          P (DocumentReading.ofEnvelope envelope schemas).outcome
            (DocumentReading.ofEnvelope envelope' schemas').outcome) :
    Option.Rel P (outcome? a) (outcome? b) := by
  have hfound := h.findSchemas_rel henvelope hempty hschemas hR
  rw [Csdl.outcome?_eq, Csdl.outcome?_eq]
  generalize (findSchemas b).toOption = found?' at hfound ⊢
  cases ha : (findSchemas a).toOption with
  | none =>
    rw [ha] at hfound
    cases hfound
    exact .none
  | some found =>
    rw [ha] at hfound
    cases hfound with
    | some hboth => exact .some (houtcome _ _ _ _ ha hboth.1 hboth.2)

end SaysAlike

/-! ## Types -/

/-- The names of what the keys of a type are made of. -/
def keyNames : List String := ["Key", "PropertyRef"]

/-- Relations between type elements, and between what is below them, that no type shows. -/
structure TypesAlike (R : Element → Element → Prop) : Prop extends SaysAlike R where
  finds : ∀ name ∈ keyNames, FindsAlike R name
  holds : ∀ name ∈ ["Property", "NavigationProperty", "ReferentialConstraint"], HoldsAlike R name

namespace TypesAlike

/-- Related types are read alike with associations that give navigations the same types. -/
theorem typeReading_eq (h : TypesAlike R)
    (hanswers : navigationType? associations? = navigationType? associations?')
    (namespaceName : String) (hR : R a b) :
    TypeReading.ofElement? associations? namespaceName a =
      TypeReading.ofElement? associations?' namespaceName b := by
  have hname := h.getText_eq hR (by decide : IsPlain "Name") (by decide)
  have hproperties := h.readProperties_eq (h.holds _ (by decide)) hR
  have hkeys (declared : List String) :=
    h.readKeys_eq (h.finds _ (by decide)) (h.finds _ (by decide)) declared hR
  have hnavigations : readNavigations associations? a = readNavigations associations?' b :=
    h.judgeNavigations_eq (h.holds _ (by decide)) hanswers [] (h.holds _ (by decide) hR)
  unfold TypeReading.ofElement?
  simp only [hname, hproperties, hkeys, hnavigations]

end TypesAlike

/-- Related schemas are read alike if the types found in them are. -/
theorem SaysAlike.schemaReading_eq {S : Element → Element → Prop} (h : SaysAlike S)
    (hcontainer : FindsAlike S "EntityContainer") (hset : HoldsAlike S "EntitySet")
    (htypes : TypesAlike R)
    (hfound : ∀ ⦃a b⦄, S a b → List.Forall₂ R (findAll "EntityType" a) (findAll "EntityType" b))
    (hanswers : navigationType? associations? = navigationType? associations?') (hS : S a b) :
    SchemaReading.ofElement associations? a = SchemaReading.ofElement associations?' b := by
  have hname := h.getText_eq hS (by decide : IsPlain "Namespace") (by decide)
  have hread (namespaceName : String) :=
    map_eq_of_forall₂ (hfound hS) fun _ _ => htypes.typeReading_eq hanswers namespaceName
  have hsets := h.readSets_eq hcontainer hset hS
  unfold SchemaReading.ofElement
  simp only [hname, hread, hsets]

/-! ## Whole documents -/

/-- The names that are looked for at any depth. -/
def deepNames : List String :=
  [envelopeName, "DataServices", "Schema", "EntityType", "Key", "PropertyRef", "EntityContainer",
    "Association"]

/-- The names that are looked for among children. -/
def childNames : List String :=
  ["Property", "NavigationProperty", "ReferentialConstraint", "EntitySet", "End"]

/-- Relations that no document shows. -/
structure ReadsAlike (R : Element → Element → Prop) : Prop extends SaysAlike R where
  finds : ∀ name ∈ deepNames, FindsAlike R name
  holds : ∀ name ∈ childNames, HoldsAlike R name

namespace ReadsAlike

theorem typesAlike (h : ReadsAlike R) : TypesAlike R where
  toSaysAlike := h.toSaysAlike
  finds name hname := h.finds name
    ((by decide : ∀ name ∈ keyNames, name ∈ deepNames) name hname)
  holds name hname := h.holds name
    ((by decide : ∀ name ∈ ["Property", "NavigationProperty", "ReferentialConstraint"],
      name ∈ childNames) name hname)

theorem schemaReading_eq (h : ReadsAlike R) (associations? : Option Associations) (hR : R a b) :
    SchemaReading.ofElement associations? a = SchemaReading.ofElement associations? b :=
  SaysAlike.schemaReading_eq h.toSaysAlike (h.finds _ (by decide)) (h.holds _ (by decide))
    h.typesAlike (h.finds "EntityType" (by decide)) rfl hR

/-- **Documents that are read alike come to the same.** -/
theorem outcome?_eq (h : ReadsAlike R) (hR : R a b) : outcome? a = outcome? b := by
  have hsame : Option.Rel Eq (outcome? a) (outcome? b) := by
    refine h.outcome?_rel (S := List.Forall₂ R) (h.finds _ (by decide))
      (fun hl => by cases hl <;> rfl) (fun hab => h.finds "Schema" (by decide) hab) hR ?_
    intro envelope schemas envelope' schemas' _ henvelope hschemas
    have hversions := h.versions_eq (h.finds _ (by decide)) henvelope
    have hassociations := h.ofSchemas_eq (h.finds _ (by decide)) (h.holds _ (by decide)) hschemas
    have hread (associations? : Option Associations) :=
      map_eq_of_forall₂ hschemas fun _ _ => h.schemaReading_eq associations?
    refine DocumentReading.outcome_congr ?_ ?_ ?_
    · simp only [DocumentReading.ofEnvelope, hversions]
    · simp only [DocumentReading.ofEnvelope, hversions, hassociations]
    · simp only [DocumentReading.ofEnvelope, hversions, hassociations, hread]
  revert hsame
  generalize outcome? a = outcome, outcome? b = outcome'
  rintro (rfl | _) <;> rfl

end ReadsAlike

end ODataExplorer.Csdl
