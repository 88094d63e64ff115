import ODataExplorer.Log.Entry
import ODataExplorer.Service.Raised

/-!
Failures that callers are told of.

A failure is of one of a few kinds. The kind decides the status that a caller sees and the word it
can tell the failure by. An exception is reported as the failure that its class says: the classes
are asked for one after another, and what is of none of them is unexpected. An unexpected failure
has no word; it is logged.

Not everything that is raised is reported. What becomes of a fetch is reported if it is the failure
of a client, and what becomes of a document if it has no model for its structure; nothing catches
anything else.
-/

namespace ODataExplorer.Service

/-- The kinds of failure. -/
inductive Kind where
  /-- The service asked for could not be reached, or refused. -/
  | unreachable
  /-- What it sent is no metadata document. -/
  | notMetadata
  /-- What it sent cannot be decoded. -/
  | invalidPayload
  /-- The URL in the request makes no sense. -/
  | invalidRequest
  | unexpected
  deriving DecidableEq, Repr

namespace Kind

/-- The status of a kind: whether the caller, the service asked for, or this one is at fault. -/
def status : Kind → Nat
  | .unreachable => 502
  | .notMetadata => 422
  | .invalidPayload => 502
  | .invalidRequest => 422
  | .unexpected => 500

/-- The word that callers know a kind by. -/
def word? : Kind → Option String
  | .unreachable => some "unreachable"
  | .notMetadata => some "not_metadata"
  | .invalidPayload => some "invalid_payload"
  | .invalidRequest => some "invalid_request"
  | .unexpected => none

end Kind

/-- A failure as it is reported. -/
structure Failure where
  kind : Kind
  message : String
  deriving DecidableEq, Repr

namespace Failure

/-- The failure that an exception is reported as. The order of the questions matters: a client error
that is nothing more counts as a service that could not be reached. -/
def of (raised : Raised) : Failure :=
  if raised.isA .unreachable then ⟨.unreachable, raised.message⟩
  else if raised.isA .notMetadata || raised.isA .structural then ⟨.notMetadata, raised.message⟩
  else if raised.isA .serviceUrl then ⟨.invalidRequest, raised.message⟩
  else if raised.isA .invalidPayload then ⟨.invalidPayload, raised.message⟩
  else if raised.isA .client then ⟨.unreachable, raised.message⟩
  else ⟨.unexpected, raised.message⟩

/-- The details of a failure. -/
def detail (failure : Failure) : Json :=
  match failure.kind.word? with
  | some word => .object [("error", .string word), ("message", .string failure.message)]
  | none => .string s!"Internal error: {failure.message}"

/-- The log of reporting a failure. -/
def log (failure : Failure) : List Log.Entry :=
  match failure.kind with
  | .unexpected => [.error s!"Unexpected error: {failure.message}"]
  | _ => []

end Failure

/-- Why there is no answer: a failure that is reported, or a fault that nothing catches. -/
inductive Problem where
  | reported (failure : Failure)
  /-- An exception that is not reported. -/
  | raised (raised : Raised)
  /-- The digits of a count are no number. -/
  | count (fault : Number.IntegerFault)
  /-- The version of the service does not fit into a header. -/
  | version (text : String)

namespace Problem

/-- The problem of an exception of some class, where those of one class are caught. -/
def catching (caught : ErrorClass) (raised : Raised) : Problem :=
  if raised.isA caught then .reported (.of raised) else .raised raised

/-- The problem of a failed fetch. -/
def ofFetch (raised : Raised) : Problem := catching .client raised

/-- The problem of a document without a model. -/
def ofDocument (fault : Csdl.DocumentFault) : Problem := catching .structural (.ofDocument fault)

/-- The log of a problem: that of its report, if it is reported. -/
def log : Problem → List Log.Entry
  | .reported failure => failure.log
  | _ => []

end Problem

end ODataExplorer.Service
