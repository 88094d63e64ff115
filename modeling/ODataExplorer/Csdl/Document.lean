import ODataExplorer.Csdl.Reading
import ODataExplorer.Nesting
import ODataExplorer.Text.Halved
import ODataExplorer.Xml.Reader

/-!
Metadata documents.

Parsing a document has two stages. The structural one finds the envelope and the schemas, and is
the only one that can fail. The second reads the schemas and leaves out what it cannot use: repeated
types, and sets whose type is not in the model.

`parse` is given a text of characters and all the room it takes. A document as callers give it may
have halves of pairs in its text, which the XML reader cannot take, and its elements may be nested
deeper than the stack of the program lets it walk; both ends of parsing are in `parseGiven`.
-/

namespace ODataExplorer.Csdl

open Xml Text

/-! ## Structure -/

/-- Why a document has no model. -/
inductive StructuralError where
  | empty
  | malformed (fault : Fault)
  | noEnvelope (rootTag : String)
  | noSchema
  deriving DecidableEq, Repr

def StructuralError.message : StructuralError → String
  | .empty => "Invalid OData metadata: document is empty"
  | .malformed fault => s!"Invalid XML: {fault.message}"
  | .noEnvelope rootTag =>
    s!"Invalid OData metadata: root element <edmx:Edmx> not found (got {rootTag})"
  | .noSchema => "Invalid OData metadata: no <Schema> definition found"

/-- The local name of the envelope. -/
def envelopeName : String := "Edmx"

/-- The envelope of a document: its root, or the first envelope below it. -/
def findEnvelope (root : Element) : Except StructuralError Element :=
  if localName root.tag == envelopeName then .ok root
  else
    match findFirst? envelopeName root with
    | some envelope => .ok envelope
    | none => .error (.noEnvelope root.tag)

/-- The envelope and the schemas of a document. -/
def findSchemas (root : Element) : Except StructuralError (Element × List Element) := do
  let envelope ← findEnvelope root
  let schemas := findAll "Schema" envelope
  if schemas.isEmpty then throw .noSchema
  return (envelope, schemas)

/-! ## Linking -/

/-- The verdict on a type among the types of all schemas. -/
inductive Placement (α : Type) where
  | kept (item : α)
  | dropped (item : α)
  deriving DecidableEq, Repr

namespace Placement

def kept? {α : Type} : Placement α → Option α
  | .kept item => some item
  | .dropped _ => none

def dropped? {α : Type} : Placement α → Option α
  | .kept _ => none
  | .dropped item => some item

end Placement

/-- The first type of each name is kept; `seen` are the names before. -/
def placeTypes (seen : List String) : List EntityType → List (Placement EntityType)
  | [] => []
  | type :: rest =>
    if seen.contains type.name then .dropped type :: placeTypes seen rest
    else .kept type :: placeTypes (type.name :: seen) rest

/-- A set is kept when it has a name and its type is among those given. -/
def placeSet (typeNames : List String) (set : EntitySet) : Placement EntitySet :=
  if set.name.isEmpty || !typeNames.contains set.typeName then .dropped set else .kept set

/-- The earliest namespace with the most types. `best` is what leads so far. -/
def leadingNamespace (count : String → Nat) (best : String × Nat) : List String → String
  | [] => best.1
  | name :: rest =>
    if count name > best.2 then leadingNamespace count (name, count name) rest
    else leadingNamespace count best rest

/-- The sum of counts. -/
def total (counts : List Nat) : Nat := counts.foldr (· + ·) 0

/-- How many named types the schemas of a namespace hold together. -/
def typeCount (readings : List SchemaReading) (name : String) : Nat :=
  total ((readings.filter (·.namespaceName == name)).map (·.namedTypes.length))

/-- The namespace that contributes the most types; the earliest of those that tie. -/
def dominantNamespace (readings : List SchemaReading) : String :=
  let names := readings.map (·.namespaceName)
  leadingNamespace (typeCount readings) (names.headD "", 0) names

/-! ## Documents -/

/-- A document whose schemas were read. -/
structure DocumentReading where
  versions : Versions
  schemaElements : List Element
  /-- The associations, in a document of the older dialect. -/
  associations? : Option Associations
  schemas : List SchemaReading

namespace DocumentReading

/-- Reads the schemas of an envelope. -/
def ofEnvelope (envelope : Element) (schemas : List Element) : DocumentReading :=
  let versions := Versions.ofRoot envelope
  let associations? :=
    if isModernVersion versions.protocol then none else some (Associations.ofSchemas schemas)
  { versions
    schemaElements := schemas
    associations?
    schemas := schemas.map (SchemaReading.ofElement associations?) }

/-- The named types of all schemas. -/
def types (reading : DocumentReading) : List TypeReading :=
  reading.schemas.flatMap (·.namedTypes)

/-- The verdicts on the types. -/
def typePlacements (reading : DocumentReading) : List (Placement EntityType) :=
  placeTypes [] (reading.types.map (·.entityType))

/-- The types of the model. -/
def keptTypes (reading : DocumentReading) : List EntityType :=
  reading.typePlacements.filterMap Placement.kept?

/-- The verdicts on the sets. -/
def setPlacements (reading : DocumentReading) : List (Placement EntitySet) :=
  (reading.schemas.flatMap (·.sets)).map (placeSet (reading.keptTypes.map (·.name)))

/-- The model of the document. -/
def model (reading : DocumentReading) : Model where
  types := reading.keptTypes
  sets := reading.setPlacements.filterMap Placement.kept?
  namespaceName := dominantNamespace reading.schemas
  namespaces := reading.schemas.map (·.namespaceName)
  versions := reading.versions

/-- How many navigations were dropped. -/
def droppedCount (reading : DocumentReading) : Nat :=
  total (reading.types.map (·.droppedCount))

/-- The log of reading the document. -/
def log (reading : DocumentReading) : List Log.Entry :=
  let version := reading.versions.protocol
  let count := reading.schemaElements.length
  let associations :=
    if reading.associations?.isSome then Associations.log reading.schemaElements else []
  let duplicates := reading.typePlacements.filterMap fun placement =>
    placement.dropped?.map fun type =>
      Log.Entry.debug s!"Ignoring duplicate entity type {type.qualifiedName}"
  let unlinked := reading.setPlacements.filterMap fun placement =>
    placement.dropped?.map fun set =>
      Log.Entry.debug
        s!"Dropping entity set {quoted set.name}: type {quoted set.entityType} not found"
  let model := reading.model
  [.info s!"Parsing OData metadata: version={version}, schemas={count}"] ++ associations ++
    reading.schemas.flatMap SchemaReading.log ++ duplicates ++ unlinked ++
    [.info (s!"Parsed {model.types.length} entity types, {model.sets.length} entity sets " ++
      s!"({reading.droppedCount} unresolved navigation properties dropped)")]

end DocumentReading

/-- Reads the document that an element tree is. -/
def readTree (root : Element) : Except StructuralError DocumentReading := do
  let (envelope, schemas) ← findSchemas root
  return .ofEnvelope envelope schemas

/-- The element tree of a text; an absent or blank text has none. -/
def readContent (content? : Option String) : Except StructuralError Element :=
  match content? with
  | none => .error .empty
  | some content =>
    if isBlankText content then .error .empty
    else
      match Xml.read content with
      | .ok root => .ok root
      | .error fault => .error (.malformed fault)

/-- Reads a document. -/
def readDocument (content? : Option String) : Except StructuralError DocumentReading := do
  let root ← readContent content?
  readTree root

/-- The model of a document. -/
def parse (content? : Option String) : Except StructuralError Model := do
  let reading ← readDocument content?
  return reading.model

/-! ## Documents as they are given -/

/-- Why a document that is given has no model: for its structure, or for what the parser does not
expect. -/
inductive DocumentFault where
  | structural (reason : StructuralError)
  /-- The text has no bytes for the XML reader. -/
  | halved (text : Halved)
  /-- The elements are nested deeper than there is room for. -/
  | tooDeep
  deriving DecidableEq, Repr

namespace DocumentFault

/-- The name of the class of exceptions that a fault is raised as. -/
def className : DocumentFault → String
  | .structural _ => "StructuralError"
  | .halved _ => "UnicodeEncodeError"
  | .tooDeep => "RecursionError"

def message : DocumentFault → String
  | .structural reason => reason.message
  | .halved text => text.complaint
  | .tooDeep => "maximum recursion depth exceeded in comparison"

end DocumentFault

/-- The text of a document that is given. -/
def textOfGiven : Option Wording → Except DocumentFault (Option String)
  | none => .ok none
  | some (.text content) => .ok (some content)
  | some (.halved text) => .error (.halved text)

/-- Reads a document that is given, in a room. The first search, for the envelope or for its
schemas, walks over all elements; what is walked later lies below, where there is as much room. -/
def readGiven (room : Room) (given? : Option Wording) : Except DocumentFault DocumentReading := do
  let root ← (readContent (← textOfGiven given?)).mapError .structural
  if !room.fits root.height then throw .tooDeep
  (readTree root).mapError .structural

/-- The model of a document that is given. -/
def parseGiven (room : Room) (given? : Option Wording) : Except DocumentFault Model := do
  let reading ← readGiven room given?
  return reading.model

/-! ## Detection -/

/-- Whether a text looks like a metadata document, and which version its envelope declares. It must
be the root, and the version one that is recognized. -/
def detectVersion? (content? : Option String) : Option String :=
  match readContent content? with
  | .error _ => none
  | .ok root =>
    let version := trim (root.getText "Version")
    if localName root.tag == envelopeName && recognizedVersions.contains version then some version
    else none

/-- The log of a detection. -/
def detectionLog (content? : Option String) : List Log.Entry :=
  match readContent content? with
  | .error (.malformed fault) => [.debug s!"Content is not parseable XML: {fault.message}"]
  | _ => []

/-- What `detectVersion?` says of a text that is given; one with halves in it is no document. -/
def detectGiven? : Wording → Option String
  | .text content => detectVersion? (some content)
  | .halved _ => none

/-- The log of detecting a text that is given. -/
def givenLog : Wording → List Log.Entry
  | .text content => detectionLog (some content)
  | .halved text => [.debug s!"Content is not parseable XML: {text.complaint}"]

/-! ## Sessions -/

/-- What a parser keeps from the last document that had a model. -/
structure Session where
  associations? : Option Associations := none
  dropped : Nat := 0
  deriving DecidableEq, Repr

/-- Parses the next document. One without a model changes nothing. -/
def Session.parse (content? : Option String) (session : Session) :
    Except StructuralError Model × Session :=
  match readDocument content? with
  | .ok reading => (.ok reading.model, ⟨reading.associations?, reading.droppedCount⟩)
  | .error reason => (.error reason, session)

/-- Parses the next document that is given. -/
def Session.parseGiven (room : Room) (given? : Option Wording) (session : Session) :
    Except DocumentFault Model × Session :=
  match readGiven room given? with
  | .ok reading => (.ok reading.model, ⟨reading.associations?, reading.droppedCount⟩)
  | .error fault => (.error fault, session)

end ODataExplorer.Csdl
