import ODataExplorer.Proofs.Csdl.Integrity

/-!
The spellings of a type.

A reference may name a type alone or after a qualifier, may be one to a collection of it, and may
have blanks around it and inside the parentheses. `EntityType.Spells` lists these spellings, and
reducing a reference to a name undoes exactly them (`reduceTypeName_eq_iff`). A qualifier may hold
anything, full stops, parentheses and the opening of a collection included: a reference is one to a
collection only if a parenthesis closes it (`isCollectionType_iff`), and of a qualified name what
follows the last full stop is left.

Main statement: a type of a model is found under its spellings and under no other reference, and
nothing is found only where no type has the reduced name (`typeNamed?_spelled`). The name has to be
one that references do not take apart (`IsReferable`). As the names of a model are distinct, the
first type of a name is the only one.
-/

namespace ODataExplorer.Csdl

open Text

variable {reference inside before after : String}

/-! ## References to collections -/

theorem toList_collectionOf (inside : String) :
    (collectionOf inside).toList = collectionOpening ++ inside.toList ++ [')'] := by
  rw [collectionOf, String.toList_append, String.toList_append]
  rfl

/-- **A reference to a collection is one that was made from its inside.** -/
theorem isCollectionType_iff :
    isCollectionType reference = true ↔ ∃ inside, reference = collectionOf inside := by
  simp only [← String.toList_inj, toList_collectionOf]
  rw [isCollectionType, isCollectionText, Bool.and_eq_true, List.isPrefixOf_iff_prefix, endsWith,
    List.isSuffixOf_iff_suffix]
  constructor
  · rintro ⟨⟨rest, hopened⟩, front, hclosed⟩
    rw [← hopened] at hclosed ⊢
    -- the opening does not end in a closing parenthesis, so there is one behind it
    rcases List.eq_nil_or_concat rest with rfl | ⟨inside, last, rfl⟩
    · exact absurd ⟨front, hclosed⟩ (by decide : ¬[')'] <:+ collectionOpening ++ [])
    · rw [List.concat_eq_append, ← List.append_assoc] at hclosed
      refine ⟨String.ofList inside, ?_⟩
      rw [List.concat_eq_append, ← List.append_inj_right' hclosed rfl, String.toList_ofList,
        List.append_assoc]
  · rintro ⟨inside, heq⟩
    rw [heq]
    refine ⟨?_, List.suffix_append _ _⟩
    rw [List.append_assoc]
    exact List.prefix_append _ _

theorem isCollectionType_collectionOf (inside : String) :
    isCollectionType (collectionOf inside) = true :=
  isCollectionType_iff.mpr ⟨inside, rfl⟩

/-! ## Reduced names -/

/-- A reference that is not one to a collection is reduced to what follows its last full stop. -/
theorem toList_reduceTypeName_single (h : isCollectionType (trim reference) = false) :
    (reduceTypeName reference).toList = afterLast '.' (trim reference).toList := by
  rw [isCollectionType, toList_trim] at h
  rw [reduceTypeName, h, if_neg Bool.false_ne_true, String.toList_ofList, toList_trim]

/-- A reference to a collection is reduced to what follows the last full stop of its inside. -/
theorem toList_reduceTypeName_collection (h : trim reference = collectionOf inside) :
    (reduceTypeName reference).toList = afterLast '.' (trim inside).toList := by
  have hcollection := isCollectionType_collectionOf inside
  have hinside := congrArg String.toList h
  rw [toList_trim, toList_collectionOf] at hinside
  rw [isCollectionType, toList_collectionOf] at hcollection
  rw [reduceTypeName, hinside, if_pos hcollection, List.append_assoc, List.drop_left,
    List.dropLast_concat, String.toList_ofList, toList_trim]

/-- Blanks around a reference do not show in its reduced name. -/
theorem reduceTypeName_around (hbefore : isBlankText before = true)
    (hafter : isBlankText after = true) (reference : String) :
    reduceTypeName (before ++ reference ++ after) = reduceTypeName reference := by
  have htrim := congrArg String.toList (trim_around hbefore hafter reference)
  rw [toList_trim, toList_trim] at htrim
  rw [reduceTypeName, htrim, reduceTypeName]

/-- A collection is reduced as what it is one of, unless that is a collection itself. -/
theorem reduceTypeName_collectionOf (h : isCollectionType (trim inside) = false) :
    reduceTypeName (collectionOf inside) = reduceTypeName inside := by
  rw [← String.toList_inj, toList_reduceTypeName_single h,
    toList_reduceTypeName_collection (isTrimmed_collectionOf inside)]

/-! ## Spellings -/

/-- A name that references do not take apart: it has no full stop in it, no blank at its ends, and
no parenthesis that closes it. -/
structure IsReferable (name : String) : Prop where
  undivided : '.' ∉ name.toList
  unclosed : endsWith [')'] name.toList = false
  trimmed : IsTrimmed name

/-- The names of a type: alone, in its namespace, and after any qualifier whatever. -/
inductive EntityType.Bears (type : EntityType) : String → Prop
  | name : type.Bears type.name
  | qualifiedName : type.Bears type.qualifiedName
  | qualified (qualifier : String) : type.Bears (qualifier ++ "." ++ type.name)

/-- The references to a type: one of its names, or a collection of one with blanks inside the
parentheses, either with blanks around it. -/
inductive EntityType.Spells (type : EntityType) : String → Prop
  | single {name before after : String} (hname : type.Bears name)
    (hbefore : isBlankText before = true) (hafter : isBlankText after = true) :
    type.Spells (before ++ name ++ after)
  | collection {name first last before after : String} (hname : type.Bears name)
    (hfirst : isBlankText first = true) (hlast : isBlankText last = true)
    (hbefore : isBlankText before = true) (hafter : isBlankText after = true) :
    type.Spells (before ++ collectionOf (first ++ name ++ last) ++ after)

namespace IsReferable

variable {name : String}

/-- What ends in the name after a full stop is not closed by a parenthesis. -/
theorem isCollectionType_eq_false (h : IsReferable name)
    (hlast : afterLast '.' reference.toList = name.toList) :
    isCollectionType reference = false := by
  have hunclosed : endsWith [')'] reference.toList = false := by
    rcases (afterLast_eq_iff h.undivided).mp hlast with heq | ⟨qualifier, heq⟩
    · rw [heq]
      exact h.unclosed
    · rw [heq, endsWith_append_cons (by decide)]
      exact h.unclosed
  rw [isCollectionType, isCollectionText, hunclosed, Bool.and_false]

/-- Trimming drops nothing of the name. -/
theorem afterLast_trim (h : IsReferable name)
    (hlast : afterLast '.' reference.toList = name.toList) :
    afterLast '.' (trim reference).toList = name.toList := by
  have htrimmed : trimWhile isBlank name.toList = name.toList := by
    rw [← toList_trim, h.trimmed]
  rw [toList_trim]
  rcases (afterLast_eq_iff h.undivided).mp hlast with heq | ⟨qualifier, heq⟩
  · rw [heq, htrimmed, afterLast_of_notMem h.undivided]
  · have hend : dropEndWhile isBlank name.toList = name.toList := by
      refine dropEndWhile_eq_self fun c hc => ?_
      rw [← htrimmed] at hc
      exact getLast?_dropEndWhile hc
    rw [heq, trimWhile_append_cons (by decide), hend, afterLast_append _ h.undivided]

end IsReferable

namespace EntityType

variable {type : EntityType} {name : String}

theorem bears_iff :
    type.Bears name ↔ name = type.name ∨ ∃ qualifier, name = qualifier ++ "." ++ type.name := by
  constructor
  · intro h
    cases h with
    | name => exact .inl rfl
    | qualifiedName =>
      rw [qualifiedName]
      split
      · exact .inl rfl
      · exact .inr ⟨type.namespaceName, rfl⟩
    | qualified qualifier => exact .inr ⟨qualifier, rfl⟩
  · rintro (rfl | ⟨qualifier, rfl⟩)
    · exact .name
    · exact .qualified qualifier

/-- A type bears the names that end in its own after the last full stop. -/
theorem bears_iff_afterLast (h : IsReferable type.name) :
    type.Bears name ↔ afterLast '.' name.toList = type.name.toList := by
  have hqualified : ∀ qualifier, (qualifier ++ "." ++ type.name).toList =
      qualifier.toList ++ '.' :: type.name.toList := fun qualifier => by simp
  rw [bears_iff, afterLast_eq_iff h.undivided, String.toList_inj]
  refine or_congr_right ⟨?_, ?_⟩
  · rintro ⟨qualifier, rfl⟩
    exact ⟨qualifier.toList, hqualified qualifier⟩
  · rintro ⟨qualifier, heq⟩
    refine ⟨String.ofList qualifier, ?_⟩
    rw [← String.toList_inj, hqualified, String.toList_ofList, heq]

/-- The names of a type stand for one entity each, and are reduced to the name of the type. -/
theorem Bears.reduceTypeName_eq (hname : type.Bears name) (h : IsReferable type.name) :
    isCollectionType (trim name) = false ∧ reduceTypeName name = type.name := by
  have hlast := h.afterLast_trim ((bears_iff_afterLast h).mp hname)
  have hsingle := h.isCollectionType_eq_false hlast
  refine ⟨hsingle, ?_⟩
  rw [← String.toList_inj, toList_reduceTypeName_single hsingle, hlast]

/-- **The references that are reduced to the name of a type are its spellings.** -/
theorem reduceTypeName_eq_iff (h : IsReferable type.name) :
    reduceTypeName reference = type.name ↔ type.Spells reference := by
  constructor
  · intro hreduced
    rw [← String.toList_inj] at hreduced
    obtain ⟨before, after, hbefore, hafter, haround⟩ := exists_around_trim reference
    rw [haround]
    cases hcollection : isCollectionType (trim reference) with
    | false =>
      rw [toList_reduceTypeName_single hcollection, ← bears_iff_afterLast h] at hreduced
      exact .single hreduced hbefore hafter
    | true =>
      obtain ⟨inside, hinside⟩ := isCollectionType_iff.mp hcollection
      rw [toList_reduceTypeName_collection hinside, ← bears_iff_afterLast h] at hreduced
      obtain ⟨first, last, hfirst, hlast, haround⟩ := exists_around_trim inside
      rw [hinside, haround]
      exact .collection hreduced hfirst hlast hbefore hafter
  · intro hspells
    cases hspells with
    | single hname hbefore hafter =>
      rw [reduceTypeName_around hbefore hafter, (hname.reduceTypeName_eq h).2]
    | @collection name first last _ _ hname hfirst hlast hbefore hafter =>
      obtain ⟨hsingle, hreduced⟩ := hname.reduceTypeName_eq h
      have hinside : isCollectionType (trim (first ++ name ++ last)) = false := by
        rw [trim_around hfirst hlast]
        exact hsingle
      rw [reduceTypeName_around hbefore hafter, reduceTypeName_collectionOf hinside,
        reduceTypeName_around hfirst hlast, hreduced]

end EntityType

/-! ## Finding types -/

/-- The types of a model that is read have distinct names. -/
theorem nodup_types_of_parse {content? : Option String} {model : Model}
    (h : parse content? = .ok model) : (model.types.map (·.name)).Nodup := by
  obtain ⟨root, reading, -, -, rfl⟩ := parse_eq_ok h
  exact reading.nodup_types

/-- **A type of a model is found under its spellings,** and under no other reference. Nothing is
found under a reference exactly if no type has the name that the reference is reduced to. -/
theorem typeNamed?_spelled {content? : Option String} {model : Model}
    (h : parse content? = .ok model) :
    (∀ type ∈ model.types, IsReferable type.name → ∀ reference,
      model.typeNamed? reference = some type ↔ type.Spells reference) ∧
    ∀ reference, model.typeNamed? reference = none ↔
      ∀ type ∈ model.types, type.name ≠ reduceTypeName reference := by
  have hnodup := nodup_types_of_parse h
  refine ⟨fun type hmem hname reference => ?_, fun reference => ?_⟩
  · rw [← EntityType.reduceTypeName_eq_iff hname, Model.typeNamed?]
    constructor
    · intro hfound
      have hhas := List.find?_some hfound
      exact (eq_of_beq hhas).symm
    · intro hreduced
      rw [hreduced]
      exact find?_name_of_mem hnodup hmem
  · simp only [Model.typeNamed?, List.find?_eq_none, beq_iff_eq, ne_eq]

/-- A document with one type. -/
def soleOrder : String :=
  "<Edmx><Schema Namespace='A.B'><EntityType Name='Order'/></Schema></Edmx>"

/-- The type of the document. -/
def orderType : EntityType := ⟨"Order", "A.B", [], [], []⟩

/-- A reference to a collection, with blanks and with a qualifier that is one too. -/
def wideReference : String :=
  " " ++ collectionOf ("\t" ++ ("Collection(A.B)" ++ "." ++ "Order") ++ " ") ++ "\n"

theorem typeNamed?_spelled_wide :
    ∃ model, parse (some soleOrder) = .ok model ∧ orderType ∈ model.types ∧
      IsReferable orderType.name ∧ orderType.Spells wideReference ∧
      model.typeNamed? wideReference = some orderType ∧ model.typeNamed? "Order.A" = none := by
  have hread : (parse (some soleOrder)).toOption.map (·.types) = some [orderType] := by
    decide +kernel
  have hname : IsReferable orderType.name :=
    ⟨by decide, by decide, by rw [IsTrimmed]; decide⟩
  have hspells : orderType.Spells wideReference :=
    .collection (.qualified "Collection(A.B)") rfl rfl rfl rfl
  cases hparse : parse (some soleOrder) with
  | error reason =>
    rw [hparse] at hread
    cases hread
  | ok model =>
    rw [hparse] at hread
    have htypes : model.types = [orderType] := Option.some.inj hread
    have hmem : orderType ∈ model.types := htypes ▸ List.mem_singleton_self orderType
    obtain ⟨hfound, hnone⟩ := typeNamed?_spelled hparse
    refine ⟨model, rfl, hmem, hname, hspells, (hfound orderType hmem hname _).mpr hspells, ?_⟩
    rw [hnone, htypes]
    exact List.forall_mem_singleton.mpr (by decide)

end ODataExplorer.Csdl
