import ODataExplorer.Log.Logged
import ODataExplorer.Server.Message
import ODataExplorer.Settings.Basic
import ODataExplorer.Text.Blank
import ODataExplorer.Text.Split

/-!
Bearer tokens.

A request carries its token in one header, after the word for the scheme and a space. A token is
valid when it equals the one of the settings. The token for development is warned of once.
-/

namespace ODataExplorer.Server

open Text Log

/-- The word for the scheme, in lower case. -/
def bearerScheme : String := "bearer"

/-- The token a request carries. A blank one is none. -/
def bearerToken? (request : Request) : Option String := do
  let value ← request.header? "authorization"
  let (scheme, credentials) ← cut? ' ' value.toList
  let token := trim (String.ofList credentials)
  if asciiLowerText (String.ofList scheme) == bearerScheme && !token.isEmpty then some token
  else none

/-- Whether the warning about the token for development is still due. -/
inductive Warning where
  | due
  | given
  deriving DecidableEq, Repr

/-- Why a token is refused. -/
inductive TokenFault where
  /-- There is none. -/
  | absent
  /-- It is not the valid one. -/
  | wrong
  deriving DecidableEq, Repr

def TokenFault.message : TokenFault → String
  | .absent => "Not authenticated"
  | .wrong => "Invalid authentication token"

/-- The status of a request without a valid token. -/
def unauthorizedStatus : Nat := 401

/-- The response to a request without a valid token. One without any token is told the scheme. -/
def TokenFault.response (fault : TokenFault) : Response :=
  let response := Response.ofDetail unauthorizedStatus (.string fault.message)
  match fault with
  | .absent => response.withHeaders [("www-authenticate", "Bearer")]
  | .wrong => response

/-- Warns of the token for development, once. -/
def warnOfToken (settings : Settings.Interface) (warning : Warning) : Logged Warning :=
  if settings.usesDevelopmentToken && warning == .due then
    ⟨.given, [.warning ("⚠️  Using default API_TOKEN='devtoken'. " ++
      "Set API_TOKEN environment variable for production!")]⟩
  else pure warning

/-- Checks a token against the valid one. -/
def checkToken (settings : Settings.Interface) (token : String) (warning : Warning) :
    Logged (Except TokenFault Unit × Warning) := do
  let warning ← warnOfToken settings warning
  if token == settings.token then return (.ok (), warning)
  else ⟨(.error .wrong, warning), [.info "Rejected request with invalid bearer token"]⟩

/-- Checks that a request carries the valid token. -/
def authenticate (settings : Settings.Interface) (request : Request) (warning : Warning) :
    Logged (Except TokenFault Unit × Warning) :=
  match bearerToken? request with
  | none => pure (.error .absent, warning)
  | some token => checkToken settings token warning

end ODataExplorer.Server
