import ODataExplorer.Service.Plan
import ODataExplorer.Validation.Request

/-!
What is answered about metadata: the model of a document, whether a text is one, and where the
document of a service is.
-/

namespace ODataExplorer.Service

open Log

/-- A model, and where its document was fetched if it was. -/
structure SchemaAnswer where
  model : Csdl.Model
  metadataUrl? : Option String
  serviceRoot? : Option String
  deriving DecidableEq, Repr

/-- The version of a text that is a metadata document. -/
structure DetectionAnswer where
  version? : Option String
  deriving DecidableEq, Repr

/-- Where a service and its metadata document are. -/
structure LocationAnswer where
  metadataUrl : String
  serviceRoot : String
  deriving DecidableEq, Repr

/-- The log of a document without a model. -/
def rejectionLog : Csdl.DocumentFault → List Entry
  | .structural reason => [.warning s!"Rejected $metadata document: {reason.message}"]
  | _ => []

/-- The answer to a document in a room; `metadataUrl?` is where it came from. -/
def answerDocument (room : Room) (metadataUrl? : Option String) (content : Text.Wording) :
    Answered SchemaAnswer :=
  match Csdl.readGiven room (some content) with
  | .ok reading =>
    ⟨.ok ⟨reading.model, metadataUrl?, metadataUrl?.map Query.serviceRoot⟩, reading.log⟩
  | .error fault => .failed (rejectionLog fault) (.ofDocument fault)

/-- The answer to what came of fetching a document. -/
def answerFetched (room : Room) (metadataUrl : String) :
    Except Raised Text.Wording → Answered SchemaAnswer
  | .error raised => .failed [] (.ofFetch raised)
  | .ok content => answerDocument room (some metadataUrl) content

/-- The content of a request; empty if there is none. -/
def contentOf (request : Validation.ParseRequest) : Text.Wording :=
  request.content?.getD (.text "")

/-- Parses a document. Content that is not empty wins; otherwise the document of the service that
the URL belongs to is fetched. -/
def parse (room : Room) (request : Validation.ParseRequest) : Plan Text.Wording SchemaAnswer :=
  if (contentOf request).isEmpty then
    match Query.metadataUrl (request.url?.getD "") with
    | .error reason =>
      .answer (.failed [.warning s!"Rejected service URL: {reason.message}"]
        (.reported (.of (.ofUrl reason))))
    | .ok url =>
      .fetch url [.info s!"Fetching $metadata from {url}"] (answerFetched room url)
  else .answer (answerDocument room none (contentOf request))

/-- Detects whether a text is a metadata document. -/
def detect (content : Text.Wording) : Logged DetectionAnswer :=
  ⟨⟨Csdl.detectGiven? content⟩, Csdl.givenLog content⟩

/-- Finds the metadata document and the root of the service that a URL belongs to. -/
def locate (url : String) : Except Failure LocationAnswer :=
  match Query.metadataUrl url with
  | .ok metadataUrl => .ok ⟨metadataUrl, Query.serviceRoot metadataUrl⟩
  | .error reason => .error (.of (.ofUrl reason))

end ODataExplorer.Service
