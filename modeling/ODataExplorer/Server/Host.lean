import ODataExplorer.Server.Origin
import ODataExplorer.Server.Route
import ODataExplorer.Server.Token

/-!
Hosts: how requests are responded to.

A request to an endpoint passes three gates: its body must be readable, its token valid, and what it
says must fit. Only then is the call carried out. Every response names the version of the service,
and a response to another origin says whether that origin may have it.
-/

namespace ODataExplorer.Server

open Log Service Text

/-- A host: its settings, and the client that it fetches with. -/
structure Host where
  settings : Settings.Interface
  client : Fetch.Client

/-- What a host keeps between requests. -/
structure State where
  traffic : Traffic
  warning : Warning := .due

/-- When a request arrives: the time, and how long the host has been running. -/
structure Moment where
  now : Double
  uptime : Double
  deriving DecidableEq, Repr

/-- The response to a question for the state of health. -/
def healthResponse (settings : Settings.Interface) (moment : Moment) : Response :=
  .ofJson 200 (.object [
    ("status", .string "healthy"),
    ("timestamp", .float moment.now),
    ("uptime", .float moment.uptime),
    ("api_version", .string settings.version)])

/-- The response to a reported failure. -/
def failureResponse (failure : Failure) : Response := .ofDetail failure.kind.status failure.detail

/-- The response that an answer becomes; a problem that is not reported has none. -/
def answerResponse : Except Problem Json → Except Problem Response
  | .ok answer => .ok (.ofJson 200 answer)
  | .error (.reported failure) => .ok (failureResponse failure)
  | .error problem => .error problem

/-- The gates before a call: what it is, or the response to a request that does not get through.
The warning about the token may be given on the way. -/
def Host.passGates (host : Host) (endpoint : Endpoint) (request : Request) (warning : Warning) :
    Logged (Except Response Call × Warning) := do
  match if endpoint.takesBody then readBody host.client.room request else .ok .absent with
  | .error fault => return (.error fault.response, warning)
  | .ok body =>
    let (checked, warning) ← authenticate host.settings request warning
    match checked with
    | .error fault => return (.error fault.response, warning)
    | .ok () =>
      match endpoint.call request body with
      | .error complaints => return (.error (complaintsResponse complaints), warning)
      | .ok call => return (.ok call, warning)

/-- The response of an endpoint. -/
def Host.endpointResponse (host : Host) (endpoint : Endpoint) (request : Request)
    (state : State) : Answered Response × State :=
  let passed := host.passGates endpoint request state.warning
  let (call?, warning) := passed.value
  match call? with
  | .error response => (⟨.ok response, passed.log⟩, { state with warning })
  | .ok call =>
    let (answered, traffic) := call.performOver host.client state.traffic
    (⟨answerResponse answered.value, passed.log ++ answered.log⟩, { traffic, warning })

/-- The response to a request, wherever it comes from. -/
def Host.ownResponse (host : Host) (moment : Moment) (request : Request) (state : State) :
    Answered Response × State :=
  match Destination.of request.method request.path with
  | .route .health => (⟨.ok (healthResponse host.settings moment), []⟩, state)
  | .route (.endpoint endpoint) => host.endpointResponse endpoint request state
  | .otherMethod route =>
    let response := Response.ofDetail 405 (.string "Method Not Allowed")
    (⟨.ok (response.withHeaders [("allow", route.method)]), []⟩, state)
  | .otherPath route =>
    (⟨.ok { status := 307, headers := [("location", route.path)] }, []⟩, state)
  | .nowhere => (⟨.ok (.ofDetail 404 (.string "Not Found")), []⟩, state)

/-- The response to a request from some origin, which may be a question beforehand. -/
def Host.originResponse (host : Host) (moment : Moment) (request : Request) (state : State) :
    Answered Response × State :=
  let origins := host.settings.origins
  match request.header? "origin" with
  | none => host.ownResponse moment request state
  | some origin =>
    match requestedMethod? request with
    | some method => (⟨.ok (preflight origins origin method), []⟩, state)
    | none =>
      let (answered, state) := host.ownResponse moment request state
      let headers := crossOriginHeaders origins origin request
      (answered.map (·.withHeaders headers), state)

/-- Puts the finishing touches to a response: the version of the service, which has to fit into a
header, and nothing carried to a request that only asks for the head. -/
def Host.finish (host : Host) (request : Request) (response : Response) :
    Except Problem Response :=
  let version := host.settings.version
  if !Repertoire.latin1.covers version then .error (.version version)
  else
    let response := response.withHeaders [("x-api-version", version)]
    .ok (if request.method == "HEAD" then response.withoutContent else response)

/-- The response to a request, and the state after it. -/
def Host.respond (host : Host) (moment : Moment) (request : Request) (state : State) :
    Answered Response × State :=
  let (answered, state) := host.originResponse moment request state
  (⟨answered.value.bind (host.finish request), answered.log⟩, state)

end ODataExplorer.Server
