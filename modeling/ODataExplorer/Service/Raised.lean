import ODataExplorer.Csdl.Document
import ODataExplorer.Fetch.Client
import ODataExplorer.Query.ServiceUrl

/-!
What is raised.

Whatever goes wrong on the way to an answer is raised as an exception, which has a class and a text.
Failures are told apart by the classes alone. A class derives from one other at most, and through it
from those that this one derives from; an exception is one of all of these. A client may raise
anything; the one of this library raises what its failures say (`Raised.ofFetch`).
-/

namespace ODataExplorer.Service

/-- The classes of exceptions. -/
inductive ErrorClass where
  /-- A fetch failed. -/
  | client
  | unreachable
  | notMetadata
  | invalidPayload
  /-- A document has no model. -/
  | structural
  /-- A service URL cannot be split. -/
  | serviceUrl
  /-- A class that derives from one of these. -/
  | derived (name : String) (base : ErrorClass)
  /-- Any other class. -/
  | other (name : String)
  deriving DecidableEq, Repr

namespace ErrorClass

def name : ErrorClass → String
  | .client => "ODataClientError"
  | .unreachable => "SourceUnreachableError"
  | .notMetadata => "NotMetadataDocumentError"
  | .invalidPayload => "InvalidPayloadError"
  | .structural => "StructuralError"
  | .serviceUrl => "InvalidServiceUrlError"
  | .derived name _ | .other name => name

/-- The classes that a class derives from, the nearest one first. -/
def bases : ErrorClass → List ErrorClass
  | .unreachable | .notMetadata | .invalidPayload => [.client]
  | .serviceUrl => [.other "ValueError"]
  | .derived _ base => base :: base.bases
  | .client | .structural | .other _ => []

/-- Whether exceptions of a class are exceptions of another one. -/
def isA (own other : ErrorClass) : Bool := own == other || own.bases.contains other

/-- The class of the failures of a category. -/
def ofCategory : Fetch.Category → ErrorClass
  | .unreachable => .unreachable
  | .notMetadata => .notMetadata
  | .invalidPayload => .invalidPayload

end ErrorClass

/-- An exception. -/
structure Raised where
  errorClass : ErrorClass
  message : String
  deriving DecidableEq, Repr

namespace Raised

/-- Whether an exception is one of a class. -/
def isA (raised : Raised) (errorClass : ErrorClass) : Bool := raised.errorClass.isA errorClass

/-- What the client of this library raises when a fetch fails. -/
def ofFetch (reason : Fetch.Failure) : Raised :=
  match reason.category? with
  | some category => ⟨.ofCategory category, reason.message⟩
  | none => ⟨.other reason.className, reason.message⟩

/-- What is raised for a document without a model. -/
def ofDocument (fault : Csdl.DocumentFault) : Raised :=
  match fault with
  | .structural reason => ⟨.structural, reason.message⟩
  | .halved _ | .tooDeep => ⟨.other fault.className, fault.message⟩

/-- What is raised for a URL that cannot be split. -/
def ofUrl (reason : Query.InvalidServiceUrl) : Raised := ⟨.serviceUrl, reason.message⟩

end Raised

end ODataExplorer.Service
