import ODataExplorer.Payload.Envelope
import ODataExplorer.Query.Compile
import ODataExplorer.Service.Plan
import ODataExplorer.Validation.Request

/-!
What is answered about data: the URL of a query, its rows, and the rows of a payload that is already
there.
-/

namespace ODataExplorer.Service

open Log

/-- The rows of a payload and how many there are in all. -/
structure RowsAnswer where
  rows : Json
  total? : Option Int

/-- The rows of a query, how they came, and the URL that was asked. -/
structure QueryAnswer where
  compiled : Query.Compiled
  format : Payload.Format
  usedFallback : Bool
  rows : RowsAnswer

/-- Compiles a query. -/
def compile (request : Validation.CompileRequest) : Query.Compiled :=
  Query.compile (Query.serviceRoot request.metadataUrl) request.selection (some request.version)
    request.declared?

/-- The rows of a payload. -/
def normalize (payload : Json) : Except Problem RowsAnswer :=
  match Payload.totalCount payload with
  | .ok total? => .ok ⟨Payload.rows payload, total?⟩
  | .error fault => .error (.count fault)

/-- The answer to what came of fetching the data of a query. -/
def answerData (compiled : Query.Compiled) :
    Except Raised Payload.Decoded → Answered QueryAnswer
  | .error raised => .failed [] (.ofFetch raised)
  | .ok decoded =>
    ⟨(normalize decoded.payload).map fun rows =>
      ⟨compiled, decoded.format, decoded.usedFallback, rows⟩, []⟩

/-- Compiles a query, fetches its data and takes out the rows. -/
def execute (request : Validation.CompileRequest) : Plan Payload.Decoded QueryAnswer :=
  let compiled := compile request
  .fetch compiled.url [.info s!"Executing query {compiled.displayUrl}"] (answerData compiled)

end ODataExplorer.Service
