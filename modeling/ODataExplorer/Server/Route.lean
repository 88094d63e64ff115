import ODataExplorer.Server.Body
import ODataExplorer.Service.Call
import ODataExplorer.Text.Blank

/-!
Routes: which path and method lead to what, and how a request to a route is read.

One route tells whether the service is alive and is open to everyone. The others are endpoints, one
for each kind of call, and need a token.
-/

namespace ODataExplorer.Server

open Text Validation

/-- The kinds of calls that can be made. -/
inductive Endpoint where
  | parse
  | detect
  | locate
  | compile
  | execute
  | normalize
  deriving DecidableEq, Repr

namespace Endpoint

/-- All endpoints. -/
def all : List Endpoint := [.parse, .detect, .locate, .compile, .execute, .normalize]

/-- The path of an endpoint. -/
def path : Endpoint → String
  | .parse => "/api/metadata/parse"
  | .detect => "/api/metadata/detect"
  | .locate => "/api/metadata/url"
  | .compile => "/api/query/compile"
  | .execute => "/api/query/execute"
  | .normalize => "/api/response/normalize"

/-- The one method an endpoint takes. -/
def method : Endpoint → String
  | .locate => "GET"
  | .parse | .detect | .compile | .execute | .normalize => "POST"

/-- A query parameter that must not be empty. -/
def readParameter (name : String) (request : Request) : Checked String :=
  within (.field "query") (within (.field name)
    (match request.parameter? name with
      | none => refuse .missing
      | some value => if value.isEmpty then refuse .tooShort else .ok value))

/-- Whether requests to an endpoint have a body. -/
def takesBody (endpoint : Endpoint) : Bool := endpoint != .locate

/-- The call that a request stands for. -/
def call (endpoint : Endpoint) (request : Request) (body : Body) : Checked Service.Call :=
  match endpoint with
  | .parse => (body.check (parseRequest .attributes)).map .parse
  | .detect => (body.check (detectRequest .attributes)).map .detect
  | .locate => (readParameter "url" request).map .locate
  | .compile => (body.check (compileRequest .attributes)).map .compile
  | .execute => (body.check (compileRequest .attributes)).map .execute
  | .normalize => (body.check (normalizeRequest .attributes)).map .normalize

end Endpoint

/-- Everything there is to ask for. -/
inductive Route where
  | health
  | endpoint (endpoint : Endpoint)
  deriving DecidableEq, Repr

namespace Route

/-- All routes. -/
def all : List Route := .health :: Endpoint.all.map .endpoint

/-- The path of a route. -/
def path : Route → String
  | .health => "/healthz"
  | .endpoint found => found.path

/-- The one method a route takes. -/
def method : Route → String
  | .health => "GET"
  | .endpoint found => found.method

/-- The route of a path. A line end after the path does not count. -/
def ofPath? (path : String) : Option Route :=
  all.find? fun route => route.path == path || route.path ++ "\n" == path

end Route

/-- Where a request leads. -/
inductive Destination where
  | route (found : Route)
  /-- The path is that of a route, the method is not. -/
  | otherMethod (found : Route)
  /-- The path is that of a route but for slashes at its end. -/
  | otherPath (found : Route)
  | nowhere
  deriving DecidableEq, Repr

/-- Where a method and a path lead. -/
def Destination.of (method path : String) : Destination :=
  match Route.ofPath? path with
  | some found => if found.method == method then .route found else .otherMethod found
  | none =>
    match Route.ofPath? (dropTrailingSlashes path) with
    | some found => .otherPath found
    | none => .nowhere

end ODataExplorer.Server
