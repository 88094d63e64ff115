import ODataExplorer.Csdl.Association
import ODataExplorer.Proofs.Text.Trim

/-!
What a relationship means, said without tables.

The scan goes through the associations schema by schema, in document order, and takes the first
that a relationship names in full, else the first of its bare name. Main statement: the tables
answer every question as the scan does (`resolve?_ofSchemas_eq_scan?`).

The tables are filled by one insertion after another, and an insertion changes the answer to a name
only where there was none. So after any number of insertions the entry of a name is the first one
that was offered under it. That is the whole invariant, and it is the same for both tables.
-/

namespace ODataExplorer.Csdl

open Xml Text

/-! ## The scan -/

/-- An end with a role and a type. -/
def isUsableEnd (element : Element) : Bool :=
  !(element.getText "Role").isEmpty && !isBlankText (element.getText "Type")

/-- An association with a name and exactly two ends, each of them usable. -/
def isUsableAssociation (element : Element) : Bool :=
  let ends := childrenNamed "End" element
  !(element.getText "Name").isEmpty && ends.length == 2 && ends.all isUsableEnd

/-- An association element with the schema it was met in. -/
structure MetAssociation where
  schema : Element
  element : Element

/-- The association elements of schemas: schema by schema, and in document order within one. -/
def metAssociations (schemas : List Element) : List MetAssociation :=
  schemas.flatMap fun schema => (findAll "Association" schema).map fun element => ⟨schema, element⟩

/-- The associations that can be used. -/
def usableAssociations (schemas : List Element) : List MetAssociation :=
  (metAssociations schemas).filter fun met => isUsableAssociation met.element

/-- Whether a relationship is the name of an association after the namespace or the alias of its
schema. -/
def MetAssociation.hasFullName (relationship : String) (met : MetAssociation) : Bool :=
  ["Namespace", "Alias"].any fun label =>
    let qualifier := met.schema.getText label
    !qualifier.isEmpty && qualifier ++ "." ++ met.element.getText "Name" == relationship

/-- Whether an association has a name, whatever its schema is called. -/
def MetAssociation.hasName (name : String) (met : MetAssociation) : Bool :=
  met.element.getText "Name" == name

/-- The first usable association that a relationship names in full, else the first that has the
name after the last full stop of the relationship. -/
def pick? (relationship : String) (schemas : List Element) : Option MetAssociation :=
  let usable := usableAssociations schemas
  let lastPart := String.ofList (afterLast '.' relationship.toList)
  (usable.find? (·.hasFullName relationship)).or (usable.find? (·.hasName lastPart))

/-- The type that an end leads to, as a reference. -/
def endType (element : Element) : String :=
  let type := trim (element.getText "Type")
  if trim (element.getText "Multiplicity") == many then collectionOf type else type

/-- The type that an association gives for a role: that of the last end with the role. -/
def roleType? (role : String) (element : Element) : Option String :=
  ((childrenNamed "End" element).reverse.find? (·.getText "Role" == role)).map endType

/-- The type that a role of a relationship leads to, read off the schemas. An association that was
picked is the only one asked. -/
def scan? (schemas : List Element) (relationship role : String) : Option String :=
  if relationship.isEmpty || role.isEmpty then none
  else (pick? relationship schemas).bind fun met => roleType? role met.element

/-! ## Reading one association -/

/-- The name and the ends of an association, when it can be used. -/
def AssociationReading.usable? : AssociationReading → Option (String × Association)
  | .usable name association => some (name, association)
  | _ => none

theorem endTarget?_eq (element : Element) :
    endTarget? element =
      if isBlankText (element.getText "Type") then none else some (endType element) := by
  simp only [endTarget?, isEmpty_trim, endType]
  split
  · rfl
  · split <;> rfl

/-- An end is read exactly when it is usable, with the type it leads to. -/
theorem readEnd?_eq (element : Element) :
    readEnd? element =
      if isUsableEnd element then some ⟨element.getText "Role", endType element⟩ else none := by
  rw [readEnd?, endTarget?_eq, isUsableEnd]
  cases (element.getText "Role").isEmpty <;> cases isBlankText (element.getText "Type") <;> rfl

/-- Of two ends the later one answers first. -/
theorem target?_eq (role : String) (first second : Element) :
    Association.target? role
        ⟨⟨first.getText "Role", endType first⟩, ⟨second.getText "Role", endType second⟩⟩ =
      ([first, second].reverse.find? (·.getText "Role" == role)).map endType := by
  simp only [Association.target?, List.reverse_cons, List.reverse_nil, List.nil_append,
    List.cons_append, List.find?_cons, List.find?_nil]
  cases second.getText "Role" == role with
  | true => rfl
  | false => cases first.getText "Role" == role <;> rfl

/-- A usable association has a name, and two ends that are usable. -/
theorem isUsableAssociation_iff {element : Element} :
    isUsableAssociation element = true ↔ (element.getText "Name").isEmpty = false ∧
      ∃ first second, childrenNamed "End" element = [first, second] ∧
        isUsableEnd first = true ∧ isUsableEnd second = true := by
  rw [isUsableAssociation, Bool.and_eq_true, Bool.and_eq_true, Bool.not_eq_true', beq_iff_eq,
    List.length_eq_two, and_assoc]
  refine and_congr_right fun _ => ⟨?_, ?_⟩
  · rintro ⟨⟨first, second, hends⟩, hall⟩
    rw [hends, List.all_cons, List.all_cons, List.all_nil, Bool.and_true, Bool.and_eq_true] at hall
    exact ⟨first, second, hends, hall⟩
  · rintro ⟨first, second, hends, hfirst, hsecond⟩
    refine ⟨⟨first, second, hends⟩, ?_⟩
    rw [hends, List.all_cons, List.all_cons, List.all_nil, hfirst, hsecond]
    rfl

theorem isUsableEnd_of_mem {element side : Element} (h : isUsableAssociation element = true)
    (hmem : side ∈ childrenNamed "End" element) : isUsableEnd side = true := by
  rw [isUsableAssociation, Bool.and_eq_true] at h
  exact List.all_eq_true.mp h.2 side hmem

/-- A usable association is read under its name, and answers for every role as its element does. -/
theorem usable?_of_isUsable {element : Element} (h : isUsableAssociation element = true) :
    ∃ association, (AssociationReading.ofElement element).usable? =
        some (element.getText "Name", association) ∧
      ∀ role, association.target? role = roleType? role element := by
  obtain ⟨hname, first, second, hends, hfirst, hsecond⟩ := isUsableAssociation_iff.mp h
  refine ⟨⟨⟨first.getText "Role", endType first⟩, ⟨second.getText "Role", endType second⟩⟩, ?_,
    fun role => ?_⟩
  · simp only [AssociationReading.ofElement, hname, readAssociation?, hends, readEnd?_eq, hfirst,
      hsecond, if_true, Bool.false_eq_true, if_false, AssociationReading.usable?]
  · rw [target?_eq, roleType?, hends]

/-- An association that cannot be used is not read. -/
theorem usable?_of_not_isUsable {element : Element} (h : isUsableAssociation element = false) :
    (AssociationReading.ofElement element).usable? = none := by
  cases hname : (element.getText "Name").isEmpty with
  | true => simp only [AssociationReading.ofElement, hname, if_true, AssociationReading.usable?]
  | false =>
    have hread : readAssociation? element = none := by
      unfold readAssociation?
      split
      · next first second hends =>
        simp only [isUsableAssociation, hname, hends, List.length_cons, List.length_nil,
          List.all_cons, List.all_nil, Bool.not_false, Bool.true_and, Bool.and_true,
          beq_self_eq_true, Bool.and_eq_false_iff] at h
        rw [readEnd?_eq, readEnd?_eq]
        rcases h with h | h
        · rw [h]; rfl
        · rw [h]; cases isUsableEnd first <;> rfl
      · rfl
    simp only [AssociationReading.ofElement, hname, hread, Bool.false_eq_true, if_false,
      AssociationReading.usable?]

/-! ## Filling the tables -/

/-- An insertion answers for its own name, and only where nothing did before. -/
theorem AssociationTable.lookup_addNew (key name : String) (association : Association)
    (table : AssociationTable) :
    (table.addNew name association).lookup key =
      (table.lookup key).or (if name == key then some association else none) := by
  unfold AssociationTable.addNew
  cases hfound : table.lookup name with
  | some known =>
    rw [Option.isSome_some, if_pos rfl]
    cases hkey : name == key with
    | true => rw [← eq_of_beq hkey, hfound]; rfl
    | false => rw [if_neg Bool.false_ne_true, Option.or_none]
  | none =>
    rw [Option.isSome_none, if_neg Bool.false_ne_true, List.lookup_append, List.lookup_cons,
      List.lookup_nil, Bool.beq_comm]
    cases name == key <;> rfl

/-- Insertions under several names answer for each of them. -/
theorem AssociationTable.lookup_foldl_addNew (key name : String) (association : Association) :
    ∀ (qualifiers : List String) (table : AssociationTable),
      (qualifiers.foldl (fun table qualifier =>
          table.addNew (qualifier ++ "." ++ name) association) table).lookup key =
        (table.lookup key).or
          (if qualifiers.any (· ++ "." ++ name == key) then some association else none)
  | [], table => by rw [List.foldl_nil, List.any_nil, if_neg Bool.false_ne_true, Option.or_none]
  | qualifier :: rest, table => by
    rw [List.foldl_cons, AssociationTable.lookup_foldl_addNew key name association rest,
      AssociationTable.lookup_addNew, Option.or_assoc, List.any_cons]
    cases qualifier ++ "." ++ name == key <;> rfl

/-- The qualifiers of a schema are what its associations are named in full by. -/
theorem any_qualifiers_eq_hasFullName (relationship : String) (met : MetAssociation) :
    (qualifiers met.schema).any (· ++ "." ++ met.element.getText "Name" == relationship) =
      met.hasFullName relationship := by
  simp only [qualifiers, MetAssociation.hasFullName, List.any_filter, List.any_cons, List.any_nil]

namespace Associations

/-- Adds an association element, if it can be used. -/
def addMet (associations : Associations) (met : MetAssociation) : Associations :=
  match (AssociationReading.ofElement met.element).usable? with
  | some (name, association) => associations.add (qualifiers met.schema) name association
  | none => associations

theorem ofSchemas_eq_foldl (schemas : List Element) :
    ofSchemas schemas = (metAssociations schemas).foldl addMet {} := by
  rw [metAssociations, List.foldl_flatMap, ofSchemas]
  congr 1
  funext associations schema
  rw [addSchema, associationReadings, List.foldl_map, List.foldl_map]
  congr 1
  funext associations element
  rw [addMet]
  cases AssociationReading.ofElement element <;> rfl

/-- What an association is read as. -/
def read? (met : MetAssociation) : Option Association :=
  (AssociationReading.ofElement met.element).usable?.map (·.2)

/-- What an association answers to a question, when the question names it. -/
def offered? (isNamed : MetAssociation → Bool) (met : MetAssociation) : Option Association :=
  if isNamed met then read? met else none

/-- Adding one association changes an answer only where there was none: in either table it answers
to the names it is added under. -/
theorem lookup_addMet (key : String) (associations : Associations) (met : MetAssociation) :
    (associations.addMet met).qualified.lookup key =
        (associations.qualified.lookup key).or (offered? (·.hasFullName key) met) ∧
      (associations.addMet met).bare.lookup key =
        (associations.bare.lookup key).or (offered? (·.hasName key) met) := by
  cases husable : isUsableAssociation met.element with
  | false =>
    have hnone := usable?_of_not_isUsable husable
    simp only [addMet, offered?, read?, hnone, Option.map_none, ite_self, Option.or_none, and_self]
  | true =>
    obtain ⟨association, hsome, -⟩ := usable?_of_isUsable husable
    simp only [addMet, offered?, read?, hsome, Option.map_some, add]
    rw [AssociationTable.lookup_foldl_addNew, AssociationTable.lookup_addNew,
      any_qualifiers_eq_hasFullName]
    exact ⟨rfl, rfl⟩

theorem findSome?_cons_or {α β : Type} (f : α → Option β) (a : α) (rest : List α) :
    (a :: rest).findSome? f = (f a).or (rest.findSome? f) := by
  rw [List.findSome?_cons]
  cases f a <;> rfl

/-- Adding one association after another keeps the first answer to every name. -/
theorem lookup_foldl_addMet (key : String) :
    ∀ (met : List MetAssociation) (associations : Associations),
      (met.foldl addMet associations).qualified.lookup key =
          (associations.qualified.lookup key).or (met.findSome? (offered? (·.hasFullName key))) ∧
        (met.foldl addMet associations).bare.lookup key =
          (associations.bare.lookup key).or (met.findSome? (offered? (·.hasName key)))
  | [], associations => by
    simp only [List.foldl_nil, List.findSome?_nil, Option.or_none, and_self]
  | first :: rest, associations => by
    obtain ⟨hqualified, hbare⟩ := lookup_addMet key associations first
    obtain ⟨ihqualified, ihbare⟩ := lookup_foldl_addMet key rest (associations.addMet first)
    rw [List.foldl_cons, ihqualified, ihbare, hqualified, hbare, Option.or_assoc, Option.or_assoc,
      findSome?_cons_or, findSome?_cons_or]
    exact ⟨rfl, rfl⟩

/-! ## The tables answer as the scan -/

/-- The first answer is that of the first usable association that is named. -/
theorem findSome?_offered? (isNamed : MetAssociation → Bool) :
    ∀ met : List MetAssociation,
      met.findSome? (offered? isNamed) =
        ((met.filter fun met => isUsableAssociation met.element).find? isNamed).bind read?
  | [] => rfl
  | first :: rest => by
    have ih := findSome?_offered? isNamed rest
    rw [findSome?_cons_or, ih, List.filter_cons]
    cases husable : isUsableAssociation first.element with
    | false =>
      have hread : read? first = none := by rw [read?, usable?_of_not_isUsable husable]; rfl
      rw [offered?, hread, ite_self, Option.none_or]
      rfl
    | true =>
      obtain ⟨association, hsome, -⟩ := usable?_of_isUsable husable
      have hread : read? first = some association := by rw [read?, hsome]; rfl
      rw [offered?, if_pos rfl, List.find?_cons]
      cases isNamed first with
      | false => rfl
      | true => rw [if_pos rfl, hread, Option.some_or, Option.bind_some, hread]

theorem findSome?_metAssociations (isNamed : MetAssociation → Bool) (schemas : List Element) :
    (metAssociations schemas).findSome? (offered? isNamed) =
      ((usableAssociations schemas).find? isNamed).bind read? :=
  findSome?_offered? isNamed (metAssociations schemas)

/-- An association that a search among the usable ones found is read, and its reading answers for
every role as its element does. -/
theorem read?_of_find? {schemas : List Element} {isNamed : MetAssociation → Bool}
    {met : MetAssociation} (h : (usableAssociations schemas).find? isNamed = some met) :
    ∃ association, read? met = some association ∧
      ∀ role, association.target? role = roleType? role met.element := by
  have husable := (List.mem_filter.mp (List.mem_of_find?_eq_some h)).2
  obtain ⟨association, hsome, htarget⟩ := usable?_of_isUsable husable
  exact ⟨association, by rw [read?, hsome]; rfl, htarget⟩

/-- Each table answers to a name with what the first usable association of that name is read as. -/
theorem lookup_ofSchemas (schemas : List Element) (key : String) :
    (ofSchemas schemas).qualified.lookup key =
        ((usableAssociations schemas).find? (·.hasFullName key)).bind read? ∧
      (ofSchemas schemas).bare.lookup key =
        ((usableAssociations schemas).find? (·.hasName key)).bind read? := by
  obtain ⟨hqualified, hbare⟩ := lookup_foldl_addMet key (metAssociations schemas) {}
  rw [ofSchemas_eq_foldl, hqualified, hbare, findSome?_metAssociations, findSome?_metAssociations,
    List.lookup_nil, Option.none_or, Option.none_or]
  exact ⟨rfl, rfl⟩

/-- The association found in the tables is what the picked one is read as. -/
theorem find?_ofSchemas (schemas : List Element) (relationship : String) :
    (ofSchemas schemas).find? relationship = (pick? relationship schemas).bind read? := by
  rw [find?, (lookup_ofSchemas schemas _).1, (lookup_ofSchemas schemas _).2, pick?]
  -- a search by full name that finds something decides, since what it finds is read
  cases hfull : (usableAssociations schemas).find? (·.hasFullName relationship) with
  | some met =>
    obtain ⟨association, hread, -⟩ := read?_of_find? hfull
    rw [Option.bind_some, hread, Option.some_or, Option.some_or, Option.bind_some, hread]
  | none =>
    rw [Option.bind_none, Option.none_or, Option.none_or]

/-- **The tables answer as the scan does**, for every list of schemas, relationship and role. An
absent relationship or role is the empty text, and has no answer. -/
theorem resolve?_ofSchemas_eq_scan? (schemas : List Element) (relationship? role? : Option String) :
    (ofSchemas schemas).resolve? (relationship?.getD "") (role?.getD "") =
      scan? schemas (relationship?.getD "") (role?.getD "") := by
  rw [resolve?, scan?, find?_ofSchemas]
  cases hpick : pick? (relationship?.getD "") schemas with
  | none => rfl
  | some met =>
    have hfound : ∃ isNamed, (usableAssociations schemas).find? isNamed = some met := by
      rcases Option.or_eq_some_iff.mp hpick with h | ⟨-, h⟩
      · exact ⟨_, h⟩
      · exact ⟨_, h⟩
    obtain ⟨isNamed, hfound⟩ := hfound
    obtain ⟨association, hread, htarget⟩ := read?_of_find? hfound
    rw [Option.bind_some, Option.bind_some, hread, Option.bind_some, htarget]

end Associations

end ODataExplorer.Csdl
