import ODataExplorer.Query.Selection
import ODataExplorer.Validation.Field

/-!
Requests: what callers may ask for, and how it is read from JSON.

`otherwise` says what is wrong with a value that should be an object and is not; callers that read
the attributes of a value have another word for it than those that read the value itself.
-/

namespace ODataExplorer.Validation

open Query

/-- Reads a selection. -/
def selection (otherwise : Misfit) : Json → Checked Selection :=
  object otherwise fun members =>
    let set := required "entity_set" text members
    let select := optional "select" [] texts members
    let expand := optional "expand" [] texts members
    let filter? := optional "filter" none (orNull text) members
    let orderBy? := optional "order_by" none (orNull text) members
    let direction := optional "order_direction" Direction.ascending
      (choice [("asc", .ascending), ("desc", .descending)]) members
    let top? := optional "top" none (orNull integer) members
    let skip? := optional "skip" none (orNull integer) members
    let count := optional "count" false truth members
    let found :=
      complaints set ++ complaints select ++ complaints expand ++ complaints filter? ++
      complaints orderBy? ++ complaints direction ++ complaints top? ++ complaints skip? ++
      complaints count
    if found.isEmpty then do
      return {
        set := ← set, select := ← select, expand := ← expand, filter? := ← filter?
        orderBy? := ← orderBy?, direction := ← direction, top? := ← top?, skip? := ← skip?
        count := ← count }
    else .error found

/-- A metadata document, or a URL of the service it can be fetched from. -/
structure ParseRequest where
  content? : Option Text.Wording
  url? : Option String
  deriving DecidableEq, Repr

/-- Reads a request to parse. One of the two has to be there and not empty. -/
def parseRequest (otherwise : Misfit) : Json → Checked ParseRequest :=
  object otherwise fun members =>
    let content? := optional "content" none (orNull wording) members
    let url? := optional "url" none (orNull text) members
    let found := complaints content? ++ complaints url?
    if found.isEmpty then do
      let request : ParseRequest := ⟨← content?, ← url?⟩
      if request.content?.all Text.Wording.isEmpty && request.url?.all String.isEmpty then refuse .rule
      else return request
    else .error found

/-- Reads a request to detect: the content. -/
def detectRequest (otherwise : Misfit) : Json → Checked Text.Wording :=
  object otherwise (required "content" wording)

/-- A selection together with what is known of the service. -/
structure CompileRequest where
  metadataUrl : String
  version : String
  selection : Selection
  declared? : Option (List String)
  deriving DecidableEq, Repr

/-- Reads a request to compile or to execute. -/
def compileRequest (otherwise : Misfit) : Json → Checked CompileRequest :=
  object otherwise fun members =>
    let metadataUrl := required "metadata_url" text members
    let version := required "version" text members
    let selection := required "selection" (selection otherwise) members
    let declared? := optional "declared_properties" none (orNull texts) members
    let found :=
      complaints metadataUrl ++ complaints version ++ complaints selection ++ complaints declared?
    if found.isEmpty then do
      return {
        metadataUrl := ← metadataUrl, version := ← version, selection := ← selection
        declared? := ← declared? }
    else .error found

/-- Reads a request to normalize: the payload. -/
def normalizeRequest (otherwise : Misfit) : Json → Checked Json :=
  object otherwise (optional "payload" .null .ok)

end ODataExplorer.Validation
