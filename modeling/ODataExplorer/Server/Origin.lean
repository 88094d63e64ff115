import ODataExplorer.Server.Message
import ODataExplorer.Text.Split

/-!
Requests from other origins.

A browser names the origin that a request comes from, and asks beforehand whether a request would be
taken. The answer allows one of the known origins, any usual method and any header; credentials are
always allowed. A star among the origins stands for all of them.
-/

namespace ODataExplorer.Server

open Text

/-- The methods that requests from elsewhere may have. -/
def crossOriginMethods : List String := ["DELETE", "GET", "HEAD", "OPTIONS", "PATCH", "POST", "PUT"]

/-- The header that allows an origin. -/
def allowOrigin (origin : String) : String × String := ("access-control-allow-origin", origin)

/-- The header that allows credentials. -/
def allowCredentials : String × String := ("access-control-allow-credentials", "true")

/-- Whether every origin is known. -/
def takesAll (origins : List String) : Bool := origins.contains "*"

/-- Whether an origin is known. -/
def isKnownOrigin (origins : List String) (origin : String) : Bool :=
  takesAll origins || origins.contains origin

/-- The method of the request that is asked about beforehand, if one is. -/
def requestedMethod? (request : Request) : Option String :=
  if request.method == "OPTIONS" then request.header? "access-control-request-method" else none

/-- The answer to a question beforehand. -/
def preflight (origins : List String) (origin method : String) : Response :=
  let known := isKnownOrigin origins origin
  let refused :=
    (if known then [] else ["origin"]) ++
    (if crossOriginMethods.contains method then [] else ["method"])
  let response :=
    if refused.isEmpty then Response.ofText 200 "OK"
    else Response.ofText 400 ("Disallowed CORS " ++ joined ", " refused)
  response.withHeaders (allowCredentials :: if known then [allowOrigin origin] else [])

/-- The headers of a response to a request from elsewhere. Where all origins are known, only a
request with cookies has its own named. -/
def crossOriginHeaders (origins : List String) (origin : String) (request : Request) :
    List (String × String) :=
  let named :=
    if takesAll origins then
      [allowOrigin (if (request.header? "cookie").isSome then origin else "*")]
    else if origins.contains origin then [allowOrigin origin]
    else []
  allowCredentials :: named

end ODataExplorer.Server
