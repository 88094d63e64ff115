import ODataExplorer.Service.Data
import ODataExplorer.Service.Metadata

/-!
Calls: everything the service can be asked, and the answers as JSON.
-/

namespace ODataExplorer.Service

open Log

/-- A call of the service. -/
inductive Call where
  | parse (request : Validation.ParseRequest)
  | detect (content : Text.Wording)
  | locate (url : String)
  | compile (request : Validation.CompileRequest)
  | execute (request : Validation.CompileRequest)
  | normalize (payload : Json)

/-! ## Answers as JSON -/

/-- A navigation of a model. -/
def navigationJson (navigation : Csdl.Navigation) : Json := .object [
  ("name", .string navigation.name),
  ("type", .string navigation.type),
  ("target_type", .string navigation.targetType),
  ("is_collection", .bool navigation.isCollection),
  ("referential_constraint",
    match navigation.constraint? with
    | some constraint => .object [
      ("property", .string constraint.property),
      ("referenced_property", .string constraint.referencedProperty)]
    | none => .null)]

/-- A type of a model. -/
def typeJson (type : Csdl.EntityType) : Json := .object [
  ("name", .string type.name),
  ("namespace", .string type.namespaceName),
  ("keys", .ofTexts type.keys),
  ("properties", .array (type.properties.map fun property => .object [
    ("name", .string property.name),
    ("type", .string property.type),
    ("nullable", .bool property.nullable),
    ("is_key", .bool (type.keys.contains property.name))])),
  ("navigation_properties", .array (type.navigations.map navigationJson))]

/-- A set of a model. -/
def setJson (set : Csdl.EntitySet) : Json := .object [
  ("name", .string set.name),
  ("entity_type", .string set.entityType),
  ("entity_type_name", .string set.typeName)]

def SchemaAnswer.toJson (answer : SchemaAnswer) : Json :=
  let model := answer.model
  .object [
    ("namespace", .string model.namespaceName),
    ("version", .string model.versions.protocol),
    ("edmx_version", .string model.versions.envelope),
    ("namespaces", .ofTexts model.namespaces),
    ("entity_types", .array (model.types.map typeJson)),
    ("entity_sets", .array (model.sets.map setJson)),
    ("metadata_url", .ofText? answer.metadataUrl?),
    ("service_root", .ofText? answer.serviceRoot?)]

def DetectionAnswer.toJson (answer : DetectionAnswer) : Json := .object [
  ("is_metadata", .bool answer.version?.isSome),
  ("version", .ofText? answer.version?)]

def LocationAnswer.toJson (answer : LocationAnswer) : Json := .object [
  ("metadata_url", .string answer.metadataUrl),
  ("service_root", .string answer.serviceRoot)]

/-- The two URLs of a compiled query. -/
def urlMembers (compiled : Query.Compiled) : List (String × Json) := [
  ("url", .string compiled.url), ("display_url", .string compiled.displayUrl)]

def RowsAnswer.members (answer : RowsAnswer) : List (String × Json) := [
  ("rows", answer.rows), ("total_count", .ofInt? answer.total?)]

def QueryAnswer.toJson (answer : QueryAnswer) : Json :=
  .object (urlMembers answer.compiled ++
    [("format", .string answer.format.name), ("used_fallback", .bool answer.usedFallback)] ++
    answer.rows.members)

/-! ## Carrying out calls -/

/-- An answer in another form. -/
def Answered.map {β γ : Type} (f : β → γ) (answered : Answered β) : Answered γ :=
  ⟨answered.value.map f, answered.log⟩

/-- Carries out a call in a room, with the documents and the data of two sources. -/
def Call.perform {σ : Type} (room : Room) (documents : Source σ Text.Wording)
    (data : Source σ Payload.Decoded) (call : Call) (state : σ) : Answered Json × σ :=
  match call with
  | .parse request =>
    let (answered, state) := (Service.parse room request).run documents state
    (Answered.map SchemaAnswer.toJson answered, state)
  | .detect content =>
    let detected := Service.detect content
    (⟨.ok detected.value.toJson, detected.log⟩, state)
  | .locate url =>
    match Service.locate url with
    | .ok answer => (⟨.ok answer.toJson, []⟩, state)
    | .error failure => (⟨.error (.reported failure), []⟩, state)
  | .compile request => (⟨.ok (.object (urlMembers (Service.compile request))), []⟩, state)
  | .execute request =>
    let (answered, state) := (Service.execute request).run data state
    (Answered.map QueryAnswer.toJson answered, state)
  | .normalize payload =>
    (⟨(Service.normalize payload).map fun rows => .object rows.members, []⟩, state)

/-- Carries out a call over the network. -/
def Call.performOver (client : Fetch.Client) (call : Call) (traffic : Traffic) :
    Answered Json × Traffic :=
  call.perform client.room (documents client) (data client) traffic

end ODataExplorer.Service
