import ODataExplorer.Json.Value
import ODataExplorer.Text.Case

/-!
Requests and responses.

The names of headers are compared without case, and the first header of a name counts; of equal
query parameters the last one counts.

A response holds its body as a value. How it is written down is left to whoever sends it: an answer
with half of a pair in it is one here, and cannot be sent.
-/

namespace ODataExplorer.Server

open Text

/-- A request as it arrives. -/
structure Request where
  method : String
  /-- The path with its escapes decoded. -/
  path : String
  query : List (String × String) := []
  headers : List (String × String) := []
  body : List UInt8 := []

namespace Request

/-- The value of a header, whose name is given in lower case. -/
def header? (name : String) (request : Request) : Option String :=
  (request.headers.find? fun (other, _) => asciiLowerText other == name).map (·.2)

/-- The value of a query parameter. -/
def parameter? (name : String) (request : Request) : Option String :=
  request.query.reverse.lookup name

end Request

/-- What a response carries. -/
inductive Content where
  | empty
  | json (value : Json)
  | text (text : String)

/-- A response. The names of its headers are in lower case. -/
structure Response where
  status : Nat
  headers : List (String × String) := []
  content : Content := .empty

namespace Response

/-- A response with a value. Numbers that are not finite are left out of it. -/
def ofJson (status : Nat) (value : Json) : Response :=
  { status, headers := [("content-type", "application/json")], content := .json value.finiteOnly }

/-- A response with a text. -/
def ofText (status : Nat) (text : String) : Response :=
  { status, headers := [("content-type", "text/plain; charset=utf-8")], content := .text text }

/-- A response with details of what went wrong. -/
def ofDetail (status : Nat) (detail : Json) : Response :=
  .ofJson status (.object [("detail", detail)])

/-- Adds headers to a response. -/
def withHeaders (headers : List (String × String)) (response : Response) : Response :=
  { response with headers := response.headers ++ headers }

/-- A response without what it carries. -/
def withoutContent (response : Response) : Response := { response with content := .empty }

/-- Whether a response says that a request succeeded. -/
def isSuccess (response : Response) : Bool := 200 ≤ response.status && response.status < 300

end Response

end ODataExplorer.Server
