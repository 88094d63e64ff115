import ODataExplorer.Fetch.Client
import ODataExplorer.Settings.Environment

/-!
The settings of the service: what its environment says about the requests it sends and about the
requests it takes.
-/

namespace ODataExplorer.Settings

open Text Log

/-- The token that is valid when none is set, for development. -/
def developmentToken : String := "devtoken"

/-- The settings of the interface that the service offers. -/
structure Interface where
  token : String := developmentToken
  /-- The origins that browsers may send requests from. -/
  origins : List String := ["http://localhost:3000"]
  version : String := "unknown"
  logLevel : String := "INFO"
  logFormat : String := "json"
  deriving DecidableEq, Repr

namespace Interface

/-- Whether the token is the one for development. -/
def usesDevelopmentToken (settings : Interface) : Bool := settings.token == developmentToken

end Interface

/-- A text, or another one if it is empty. -/
def orIfEmpty (other text : String) : String := if text.isEmpty then other else text

/-- The settings of a client from the environment. -/
def readClient (env : Environment) : Logged Fetch.Client := do
  let standard : Fetch.Client := {}
  let timeout ← env.number "ODATA_REQUEST_TIMEOUT" Fetch.standardSeconds
  let verifyTls ← env.truth "ODATA_VERIFY_TLS" standard.verifyTls
  let maxResponseBytes ← env.integer "ODATA_MAX_RESPONSE_BYTES" standard.maxResponseBytes
  let userAgent ← env.text "ODATA_USER_AGENT" standard.userAgent
  return { timeout := .seconds timeout, verifyTls, maxResponseBytes, userAgent }

/-- The settings of the interface from the environment. -/
def readInterface (env : Environment) : Logged Interface := do
  let standard : Interface := {}
  let token ← env.text "API_TOKEN" standard.token
  let origins ← env.list "CORS_ORIGINS" (some ",") standard.origins
  let version ← env.text "APP_VERSION" standard.version
  let logLevel ← env.text "LOG_LEVEL" standard.logLevel
  let logFormat ← env.text "LOG_FORMAT" standard.logFormat
  return {
    token
    origins := origins.toOption.getD standard.origins
    version
    logLevel := upper (orIfEmpty standard.logLevel logLevel)
    logFormat := lower (orIfEmpty standard.logFormat logFormat) }

end ODataExplorer.Settings
