import ODataExplorer.Csdl.Document
import ODataExplorer.Fetch.Redirect
import ODataExplorer.Fetch.Response
import ODataExplorer.Number.Shortest
import ODataExplorer.Payload.Decode

/-!
Fetching documents and data.

A fetch is a function of the replies that the network has in store. It gives back what it fetched or
why it could not, the requests it sent, its log, and the replies it left. Redirects are followed a
limited number of times; a response that stands for a failure is not read; a body is read up to the
limit of the client.
-/

namespace ODataExplorer.Fetch

open Text

/-- How long a client waits, as it was configured. -/
inductive Timeout where
  | whole (seconds : Int)
  | seconds (seconds : Double)
  | unlimited
  deriving DecidableEq, Repr

def Timeout.text : Timeout → String
  | .whole n => toString n
  | .seconds x => x.text
  | .unlimited => "None"

/-- How many seconds a client waits unless it is told otherwise. -/
def standardSeconds : Double := .ofDecimal false 30 0

/-- The settings of a client. -/
structure Client where
  timeout : Timeout := .seconds standardSeconds
  /-- Whether certificates are checked. -/
  verifyTls : Bool := true
  maxResponseBytes : Int := 20 * 1024 * 1024
  userAgent : String := "odata-explorer-api"
  /-- The room that the program has for what is nested in what it takes in. -/
  room : Room := .standard

/-! ## Failures -/

/-- Why a fetch failed. -/
inductive Failure where
  | invalidUrl (url reason : String)
  | timedOut (url : String) (timeout : Timeout)
  | unreached (url reason : String)
  | status (code : Nat)
  | notMetadata (url : String)
  | tooLarge (url : String) (limit : Int)
  | undecodable (reason : Payload.Undecodable)
  /-- A declared length of digits that are no number. -/
  | unreadableLength (fault : Number.IntegerFault)
  /-- A content type that cannot be read. -/
  | unreadableContentType (fault : ParameterFault)
  /-- A character set that refused the body. -/
  | notDecoded (charset : String) (refusal : Charset.Refusal)
  /-- A relative URL, which no service answers. -/
  | relativeUrl (text : String)
  /-- A domain name that a redirect meets is none. -/
  | notADomain (fault : Domain.Fault)
  /-- A name of the client that no header can hold. -/
  | unsendableName (name : String)
  /-- Data with no room for what is nested in it. -/
  | tooDeep (container : Json.Container)

/-- The kinds of failure that callers tell apart. -/
inductive Category where
  | unreachable
  | notMetadata
  | invalidPayload
  deriving DecidableEq, Repr

namespace Failure

/-- The kind of a failure; a few failures are of none. -/
def category? : Failure → Option Category
  | .invalidUrl .. | .timedOut .. | .unreached .. | .status _ => some .unreachable
  | .notMetadata _ => some .notMetadata
  | .tooLarge .. | .undecodable _ => some .invalidPayload
  | .unreadableLength _ | .unreadableContentType _ | .notDecoded .. | .relativeUrl _ | .notADomain _
  | .unsendableName _ | .tooDeep _ => none

/-- The name of the class of exceptions that a failure is raised as. -/
def className : Failure → String
  | .invalidUrl .. | .timedOut .. | .unreached .. | .status _ => "SourceUnreachableError"
  | .notMetadata _ => "NotMetadataDocumentError"
  | .tooLarge .. | .undecodable _ => "InvalidPayloadError"
  | .unreadableLength _ | .relativeUrl _ => "ValueError"
  | .unreadableContentType fault => fault.className
  | .notDecoded _ refusal => refusal.className
  | .notADomain fault => fault.className
  | .unsendableName _ => "UnicodeEncodeError"
  | .tooDeep _ => "RecursionError"

/-- The status that the service answered with, where that is the failure. -/
def statusCode? : Failure → Option Nat
  | .status code => some code
  | _ => none

def message : Failure → String
  | .invalidUrl url reason => s!"Invalid URL {quoted url}: {reason}"
  | .timedOut url timeout => s!"Timed out after {timeout.text}s fetching {url}"
  | .unreached url reason => s!"Could not reach {url}: {reason}"
  | .status code => s!"HTTP {code}: {statusPhrase code}"
  | .notMetadata url => s!"{url} did not return an OData $metadata document"
  | .tooLarge url limit => s!"Response from {url} exceeds the limit of {limit} bytes"
  | .undecodable reason => reason.message
  | .unreadableLength fault => fault.message
  | .unreadableContentType fault => fault.message
  | .notDecoded charset refusal => refusal.message charset
  | .relativeUrl text => s!"unknown url type: {quoted text}"
  | .notADomain fault => fault.message
  | .unsendableName name => Repertoire.ascii.complaint name
  | .tooDeep container => (Json.ReadError.tooDeep container).message

end Failure

/-! ## Requests -/

/-- A request that was sent: what it asked for, who asked, and how many pieces of the answer were
taken. -/
structure Sent where
  accept : String
  userAgent : String
  pieces : Nat
  deriving DecidableEq, Repr

/-- A fetch that is over. -/
structure Outcome (α : Type) where
  result : Except Failure α
  sent : List Sent
  log : List Log.Entry
  /-- The replies that are left. -/
  rest : List Reply

/-- What following redirects ends with. -/
inductive Arrival where
  | response (response : Response)
  /-- The transport failed. -/
  | failure (fault : TransportFault) (reason : String)
  /-- A relative address was asked, and something answered. -/
  | relative (text : String)
  | notADomain (fault : Domain.Fault)

/-- Where a body ends that is not coded as it should be. -/
def Arrival.ofCoding (fault : Deflate.Fault) : Arrival := .failure .unreachable fault.message

/-- Where a redirect ends that is not followed. -/
def RedirectFault.arrival : RedirectFault → Arrival
  | .location fault => .failure .unreachable s!"Invalid URL in location header: {fault.message}."
  | .address fault => .failure .invalidUrl fault.message
  | .domain fault => .notADomain fault

/-- The most redirects that are followed. -/
def maxRedirects : Nat := 20

/-- The next reply of the network, and those after it. -/
def nextReply : List Reply → Reply × List Reply
  | reply :: rest => (reply, rest)
  | [] => (.failure .unreachable "no more responses", [])

/-- Sends a request and follows redirects, `redirects` of them at most. Gives what it arrives at,
the numbers of pieces taken from the responses on the way, and the replies that are left. -/
def follow (target : Target) : Nat → List Reply → Arrival × List Nat × List Reply
  | redirects, replies =>
    match nextReply replies, target with
    | (.failure fault reason, rest), _ => (.failure fault reason, [0], rest)
    | (.response response, rest), target =>
      match response.wholeFault?, target with
      | some fault, _ => (.ofCoding fault, [0], rest)
      | none, .relative text => (.relative text, [0], rest)
      | none, .absolute address =>
        match response.location? with
        | none => (.response response, [], rest)
        | some location =>
          match address.redirect location, response.content.fault?, redirects with
          | .error fault, _, _ => (fault.arrival, [0], rest)
          | .ok _, some fault, _ => (.ofCoding fault, [response.allPieces], rest)
          | .ok _, none, 0 =>
            (.failure .unreachable "Exceeded maximum allowed redirects.", [response.allPieces],
              rest)
          | .ok target, none, redirects + 1 =>
            let (arrival, pieces, rest) := follow target redirects rest
            (arrival, response.allPieces :: pieces, rest)

/-- The failure and the log entry of a transport that failed. -/
def transportFailure (client : Client) (url : String) (fault : TransportFault) (reason : String) :
    Failure × Log.Entry :=
  match fault with
  | .invalidUrl => (.invalidUrl url reason, .warning s!"Invalid URL {quoted url}: {reason}")
  | .timeout => (.timedOut url client.timeout, .warning s!"Timed out fetching {url}: {reason}")
  | .unreachable => (.unreached url reason, .warning s!"Failed to reach {url}: {reason}")

/-- The text that bytes make in the character set of a response. -/
def Response.textOf (response : Response) (bytes : List UInt8) : Except Failure String :=
  match response.charset with
  | .error fault => .error (.unreadableContentType fault)
  | .ok (charset, name) =>
    match charset.decode bytes with
    | .ok text => .ok text
    | .error refusal => .error (.notDecoded name refusal)

/-- Reads the body of a response within the limit: its text, or why there is none, and the number of
pieces taken. -/
def readText (client : Client) (url : String) (response : Response) :
    Except Failure String × Nat :=
  let limit := client.maxResponseBytes
  match declaresTooMuch limit response with
  | .error fault => (.error (.unreadableLength fault), 0)
  | .ok true => (.error (.tooLarge url limit), 0)
  | .ok false =>
    match response.readBody limit with
    | (.error .tooLarge, taken) => (.error (.tooLarge url limit), taken)
    | (.error (.coding fault), taken) => (.error (.unreached url fault.message), taken)
    | (.ok bytes, taken) => (response.textOf bytes, taken)

/-- The log of reading a body: one that is not coded as it should be counts as not reached. -/
def readingLog : Except Failure String → List Log.Entry
  | .error (.unreached url reason) => [.warning s!"Failed to reach {url}: {reason}"]
  | _ => []

/-- Where the first request for an address goes. -/
def Address.target (address : Address) : Target :=
  if address.isAbsolute then .absolute address else .relative address.textBelowRoot

/-- Fetches a text. -/
def fetchText (client : Client) (url accept : String) (replies : List Reply) : Outcome String :=
  let request (pieces : Nat) : Sent := ⟨accept, client.userAgent, pieces⟩
  match readAddress url with
  | .error fault =>
    let (failure, entry) := transportFailure client url .invalidUrl fault.message
    ⟨.error failure, [], [entry], replies⟩
  | .ok address =>
    if !Repertoire.ascii.covers client.userAgent then
      ⟨.error (.unsendableName client.userAgent), [], [], replies⟩
    else
      match follow address.target maxRedirects replies with
      | (.failure fault reason, pieces, rest) =>
        let (failure, entry) := transportFailure client url fault reason
        ⟨.error failure, pieces.map request, [entry], rest⟩
      | (.relative text, pieces, rest) =>
        ⟨.error (.relativeUrl text), pieces.map request, [], rest⟩
      | (.notADomain fault, pieces, rest) =>
        ⟨.error (.notADomain fault), pieces.map request, [], rest⟩
      | (.response response, pieces, rest) =>
        if response.isError then
          let code := response.status
          ⟨.error (.status code), (pieces ++ [0]).map request,
            [.warning s!"HTTP {code} from {url}"], rest⟩
        else
          let (result, taken) := readText client url response
          ⟨result, (pieces ++ [taken]).map request, readingLog result, rest⟩

/-! ## Documents and data -/

/-- Fetches a metadata document and checks that it looks like one. -/
def fetchMetadata (client : Client) (url : String) (replies : List Reply) : Outcome String :=
  let fetched := fetchText client url "application/xml" replies
  match fetched.result with
  | .error _ => fetched
  | .ok content =>
    let log := fetched.log ++ Csdl.detectionLog (some content)
    match Csdl.detectVersion? (some content) with
    | none => { fetched with result := .error (.notMetadata url), log }
    | some _ => { fetched with log := log ++ [.info s!"Fetched $metadata from {url}"] }

/-- Decodes a text as the result of a query. It is read as JSON first, which fails for good if there
is no room for what is nested in it. -/
def Client.decode (client : Client) (content : String) : Except Failure Payload.Decoded :=
  match Json.overflow? client.room content with
  | some container => .error (.tooDeep container)
  | none => (Payload.decode (some content) .json).mapError .undecodable

/-- The log of decoding a text. -/
def Client.decodeLog (client : Client) (content : String) : List Log.Entry :=
  if (Json.overflow? client.room content).isSome then []
  else Payload.decodeLog (some content) .json

/-- Fetches the result of a query and decodes it. -/
def fetchData (client : Client) (url : String) (replies : List Reply) : Outcome Payload.Decoded :=
  let fetched := fetchText client url "application/json" replies
  match fetched.result with
  | .error failure => ⟨.error failure, fetched.sent, fetched.log, fetched.rest⟩
  | .ok content =>
    let log := fetched.log ++ client.decodeLog content
    match client.decode content with
    | .error failure => ⟨.error failure, fetched.sent, log, fetched.rest⟩
    | .ok decoded =>
      let noted :=
        if decoded.usedFallback then
          [.info s!"Response from {url} was {decoded.format.name}, not json"]
        else []
      ⟨.ok decoded, fetched.sent, log ++ noted, fetched.rest⟩

end ODataExplorer.Fetch
