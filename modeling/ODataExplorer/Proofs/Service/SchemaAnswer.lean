import ODataExplorer.Proofs.Csdl.Integrity
import ODataExplorer.Service.Call

/-!
What an answer shows of a model.

An answer is JSON, and a client reads it by the names of its members. `ShowsIntact` says what such a
client finds: the properties of a type that are flagged as keys are the keys listed beside them, and
the type of every set is the name of exactly one type of the same answer. Main statement: that holds
of the answer to every document that has a model (`parse_intact`).
-/

namespace ODataExplorer

namespace Json

/-- The text of a value that is one. -/
def text? : Json → Option String
  | .string text => some text
  | _ => none

/-- The text under a name. -/
def textAt? (name : String) (json : Json) : Option String :=
  (json.member? name).bind text?

/-- The items of the array under a name; none when there is no array. -/
def itemsAt (name : String) (json : Json) : List Json :=
  match json.member? name with
  | some (.array items) => items
  | _ => []

/-- Whether the truth stands under a name. -/
def isTrueAt (name : String) (json : Json) : Bool :=
  match json.member? name with
  | some (.bool value) => value
  | _ => false

end Json

namespace Service

open Csdl

/-! ## Reading an answer -/

/-- The keys that a type of an answer lists. -/
def listedKeys (type : Json) : List String :=
  (type.itemsAt "keys").filterMap Json.text?

/-- The properties of a type of an answer that are flagged as keys. -/
def flaggedKeys (type : Json) : List String :=
  ((type.itemsAt "properties").filter (·.isTrueAt "is_key")).filterMap (·.textAt? "name")

/-- The names of the types of an answer. -/
def shownTypeNames (answer : Json) : List String :=
  (answer.itemsAt "entity_types").filterMap (·.textAt? "name")

/-- An answer shows the types and the sets of a model, the keys of each type twice and alike, and
for every set the name of exactly one type. -/
structure ShowsIntact (model : Model) (answer : Json) : Prop where
  types_shown :
    (answer.itemsAt "entity_types").map (fun type => (type.textAt? "name", listedKeys type)) =
      model.types.map fun type => (some type.name, type.keys)
  sets_shown : (answer.itemsAt "entity_sets").map (·.textAt? "name") =
    model.sets.map fun set => some set.name
  keys_flagged : ∀ type ∈ answer.itemsAt "entity_types", ∀ name,
    name ∈ flaggedKeys type ↔ name ∈ listedKeys type
  sets_linked : ∀ set ∈ answer.itemsAt "entity_sets",
    ∃ name, set.textAt? "entity_type_name" = some name ∧ (shownTypeNames answer).count name = 1

/-! ## What is written -/

theorem itemsAt_toJson_types (answer : SchemaAnswer) :
    answer.toJson.itemsAt "entity_types" = answer.model.types.map typeJson := rfl

theorem itemsAt_toJson_sets (answer : SchemaAnswer) :
    answer.toJson.itemsAt "entity_sets" = answer.model.sets.map setJson := rfl

theorem textAt?_typeJson (type : EntityType) :
    (typeJson type).textAt? "name" = some type.name := rfl

theorem listedKeys_typeJson (type : EntityType) : listedKeys (typeJson type) = type.keys := by
  show (type.keys.map Json.string).filterMap Json.text? = type.keys
  rw [List.filterMap_map]
  exact List.filterMap_some

/-- The flagged properties are those whose name is a key. -/
theorem flaggedKeys_typeJson (type : EntityType) :
    flaggedKeys (typeJson type) = type.propertyNames.filter type.keys.contains := by
  show ((type.properties.map _).filter _).filterMap _ = _
  rw [List.filter_map, List.filterMap_map, EntityType.propertyNames, List.filter_map]
  exact congrFun List.filterMap_eq_map _

theorem shownTypeNames_toJson (answer : SchemaAnswer) :
    shownTypeNames answer.toJson = answer.model.types.map (·.name) := by
  rw [shownTypeNames, itemsAt_toJson_types, List.filterMap_map]
  exact congrFun List.filterMap_eq_map _

/-- The answer of an intact model is as intact as the model. -/
theorem showsIntact_toJson (answer : SchemaAnswer) (h : answer.model.Intact) :
    ShowsIntact answer.model answer.toJson where
  types_shown := by
    rw [itemsAt_toJson_types, List.map_map]
    exact List.map_congr_left fun type _ =>
      Prod.ext (textAt?_typeJson type) (listedKeys_typeJson type)
  sets_shown := by
    rw [itemsAt_toJson_sets, List.map_map]
    rfl
  keys_flagged := fun json hjson name => by
    rw [itemsAt_toJson_types] at hjson
    obtain ⟨type, htype, rfl⟩ := List.mem_map.mp hjson
    rw [flaggedKeys_typeJson, listedKeys_typeJson, List.mem_filter, List.contains_iff_mem]
    constructor
    · exact fun hflagged => hflagged.2
    · exact fun hkey => ⟨(h.types_intact type htype).keys_declared name hkey, hkey⟩
  sets_linked := fun json hjson => by
    rw [itemsAt_toJson_sets] at hjson
    obtain ⟨set, hset, rfl⟩ := List.mem_map.mp hjson
    exact ⟨set.typeName, rfl, by rw [shownTypeNames_toJson]; exact h.sets_linked set hset⟩

/-- **The model of every document is intact**, and so is every answer that shows it, wherever the
document came from. -/
theorem parse_intact {content? : Option String} {model : Model}
    (h : Csdl.parse content? = .ok model) :
    model.Intact ∧ ∀ metadataUrl? serviceRoot?,
      ShowsIntact model (SchemaAnswer.toJson ⟨model, metadataUrl?, serviceRoot?⟩) := by
  obtain ⟨root, reading, -, htree, rfl⟩ := parse_eq_ok h
  have hintact := intact_of_readTree htree
  exact ⟨hintact, fun metadataUrl? serviceRoot? =>
    showsIntact_toJson ⟨reading.model, metadataUrl?, serviceRoot?⟩ hintact⟩

/-- A document with a set before its type, and with a second type of the same name. -/
def repeatedType : String :=
  "<Edmx><Schema Namespace='A'><EntityContainer><EntitySet Name='X' EntityType='A.T'/>" ++
    "</EntityContainer><EntityType Name='T'><Key><PropertyRef Name='I'/></Key>" ++
    "<Property Name='I'/></EntityType><EntityType Name='T'/></Schema></Edmx>"

theorem parse_intact_repeatedType :
    ∃ model, Csdl.parse (some repeatedType) = .ok model ∧
      model.types.map (fun type => (type.name, type.keys)) = [("T", ["I"])] ∧
      model.Intact ∧ ∀ metadataUrl? serviceRoot?,
        ShowsIntact model (SchemaAnswer.toJson ⟨model, metadataUrl?, serviceRoot?⟩) := by
  have hread : (Csdl.parse (some repeatedType)).toOption.map
      (·.types.map fun type => (type.name, type.keys)) = some [("T", ["I"])] := by
    decide +kernel
  cases h : Csdl.parse (some repeatedType) with
  | error reason =>
    rw [h] at hread
    cases hread
  | ok model =>
    rw [h] at hread
    exact ⟨model, rfl, Option.some.inj hread, parse_intact h⟩

end Service

end ODataExplorer
