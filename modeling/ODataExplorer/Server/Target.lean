import ODataExplorer.Fetch.Address
import ODataExplorer.Server.Message

/-!
What a request is addressed to.

The text that a request is addressed by is taken below the root of the host. Its path and its query
are sent with escapes and arrive without them. A request cannot be made at all if that text is no
address, or if a header has a character that ASCII lacks.
-/

namespace ODataExplorer.Server

open Text

/-- A path with its escapes decoded. Unlike in a form, a plus sign stands for itself. -/
def decodePath (cs : List Char) : List Char :=
  let shielded := cs.flatMap fun c => if c == '+' then Url.Form.encodeChar c else [c]
  Utf8.decodeLossy (Url.Form.decodedBytes shielded)

/-- The name and the value of a parameter; one without a sign between them has an empty value. -/
def decodeParameter (cs : List Char) : String × String :=
  let decode (part : List Char) : String :=
    String.ofList (Utf8.decodeLossy (Url.Form.decodedBytes part))
  let (name, value) := (cut? '=' cs).getD (cs, [])
  (decode name, decode value)

/-- The parameters of a query. -/
def decodeQuery (cs : List Char) : List (String × String) :=
  ((pieces '&' cs).filter (!·.isEmpty)).map decodeParameter

/-- Why a request cannot be made. -/
inductive RequestFault where
  | address (fault : Fetch.AddressFault)
  | header (value : String)
  deriving DecidableEq, Repr

def RequestFault.message : RequestFault → String
  | .address fault => fault.message
  | .header value => Repertoire.ascii.complaint value

namespace Request

/-- An address below the root of the host; one that says where to go by itself stays as it is. -/
def placed (address : Fetch.Address) : Fetch.Address :=
  if address.isAbsolute then address else .ofText address.textBelowRoot.toList

/-- A request without a body, for the text it is addressed by and its headers. -/
def addressed? (method target : String) (headers : List (String × String)) :
    Except RequestFault Request := do
  let address ←
    match Fetch.readAddress target with
    | .ok address => .ok (placed address)
    | .error fault => .error (.address fault)
  let path := decodePath (Fetch.straightPath address.sentPath)
  match headers.find? fun (_, value) => !Repertoire.ascii.covers value with
  | some (_, value) => .error (.header value)
  | none =>
    return {
      method
      path := if path.isEmpty then "/" else String.ofList path
      query := decodeQuery (address.query?.getD [])
      headers }

end Request

end ODataExplorer.Server
