import ODataExplorer.Charset.Basic
import ODataExplorer.Fetch.Coding
import ODataExplorer.Fetch.ContentType
import ODataExplorer.Number.Reading

/-!
What comes back from the network.

A reply is a response or the failure to get one. The body of a response is there as a whole or
comes in pieces; reading stops as soon as more has come than the limit allows.
-/

namespace ODataExplorer.Fetch

open Text

inductive Body where
  | whole (bytes : List UInt8)
  | pieces (parts : List (List UInt8))
  deriving Repr

structure Response where
  status : Nat
  /-- Names and values, a character for each byte. -/
  headers : List (String × String)
  body : Body

/-- Why no response came. -/
inductive TransportFault where
  | timeout
  | invalidUrl
  | unreachable
  deriving DecidableEq, Repr

inductive Reply where
  | response (response : Response)
  | failure (fault : TransportFault) (reason : String)

/-! ## Headers -/

/-- The bytes of a header text. -/
def headerBytes (s : String) : List UInt8 := s.toList.map (·.toNat.toUInt8)

/-- The headers as texts: in UTF-8 if all of them are, else a character for each byte. -/
def decodedHeaders (headers : List (String × String)) : List (String × String) :=
  let decoded? := headers.mapM fun (name, value) => do
    let name ← Utf8.decode? (headerBytes name)
    let value ← Utf8.decode? (headerBytes value)
    return (String.ofList name, String.ofList value)
  decoded?.getD headers

/-- The values of a header, with commas between them. -/
def header? (name : String) (headers : List (String × String)) : Option String :=
  let values := headers.filter fun (other, _) => asciiLowerText other == name
  if values.isEmpty then none else some (joined ", " (values.map (·.2)))

namespace Response

/-- The length of a body that is there as a whole is always declared. -/
def allHeaders (response : Response) : List (String × String) :=
  match response.body with
  | .whole bytes =>
    if (header? "content-length" response.headers).isSome then response.headers
    else response.headers ++ [("Content-Length", toString bytes.length)]
  | .pieces _ => response.headers

/-- The value of a header, whose name is given in lower case. -/
def header? (name : String) (response : Response) : Option String :=
  Fetch.header? name (decodedHeaders response.allHeaders)

/-- Whether the status stands for a failure. -/
def isError (response : Response) : Bool :=
  400 ≤ response.status && response.status ≤ 599

/-- The statuses that send a client elsewhere. -/
def redirectStatuses : List Nat := [301, 302, 303, 307, 308]

/-- Where a response sends the client, if it does. -/
def location? (response : Response) : Option String :=
  if redirectStatuses.contains response.status then response.header? "location" else none

/-- The character set of the body and the name it goes by: what the content type names if that is
known, and UTF-8 otherwise. -/
def charset (response : Response) : Except ParameterFault (Charset × String) := do
  let name? ←
    match response.header? "content-type" with
    | none => pure none
    | some contentType => charsetName? contentType
  let named? := name?.bind fun name => (Charset.named? name).map (·, name)
  return named?.getD (.utf8, "utf-8")

end Response

/-! ## Bodies -/

/-- The pieces a body comes in; an empty body has none. -/
def Body.parts : Body → List (List UInt8)
  | .whole bytes => if bytes.isEmpty then [] else [bytes]
  | .pieces parts => parts

/-- The number of pieces that count: those of a body that comes in pieces. -/
def Body.countOf (body : Body) (taken : Nat) : Nat :=
  match body with
  | .whole _ => 0
  | .pieces _ => taken

/-- The pieces of the body with its codings undone. -/
def Response.content (response : Response) : Pieces :=
  undoCodings (codingsOf ((response.header? "content-encoding").getD ""))
    (plainPieces response.body.parts)

/-- What makes no sense in a body that is there as a whole. Such a body is decoded as it arrives. -/
def Response.wholeFault? (response : Response) : Option Deflate.Fault :=
  match response.body with
  | .whole _ => response.content.fault?
  | .pieces _ => none

/-- The number of pieces of the whole body that count. -/
def Response.allPieces (response : Response) : Nat :=
  response.body.countOf response.content.length

/-- Why the bytes of a body are not all there. -/
inductive BodyFault where
  /-- There are too many. -/
  | tooLarge
  /-- They are not coded as they should be. -/
  | coding (fault : Deflate.Fault)
  deriving DecidableEq, Repr

/-- What reading pieces up to a limit gives: the bytes, or why they are not there, and the number of
pieces that were taken. An empty piece is taken and nothing comes of it. -/
def readPieces (limit : Int) (received taken : Nat) (done : List UInt8) :
    Pieces → Except BodyFault (List UInt8) × Nat
  | [] => (.ok done, taken)
  | .error fault :: _ => (.error (.coding fault), taken + 1)
  | .ok [] :: rest => readPieces limit received (taken + 1) done rest
  | .ok piece :: rest =>
    let received := received + piece.length
    if received > limit then (.error .tooLarge, taken + 1)
    else readPieces limit received (taken + 1) (done ++ piece) rest

/-- Reads a body up to a limit: its bytes, and the number of pieces taken that count. -/
def Response.readBody (limit : Int) (response : Response) : Except BodyFault (List UInt8) × Nat :=
  let (bytes, taken) := readPieces limit 0 0 [] response.content
  (bytes, response.body.countOf taken)

/-- Whether the declared length is a number above the limit. A text of digits that is no number is
one that cannot be read. -/
def declaresTooMuch (limit : Int) (response : Response) : Except Number.IntegerFault Bool :=
  let declared := (response.header? "content-length").getD ""
  if isDigitText declared then
    match Number.readInteger declared with
    | .ok length => .ok (length > limit)
    | .error fault => .error fault
  else .ok false

/-! ## Status phrases -/

/-- The phrases of the statuses that stand for failures. -/
def statusPhrases : List (Nat × String) := [
  (400, "Bad Request"), (401, "Unauthorized"), (402, "Payment Required"), (403, "Forbidden"),
  (404, "Not Found"), (405, "Method Not Allowed"), (406, "Not Acceptable"),
  (407, "Proxy Authentication Required"), (408, "Request Timeout"), (409, "Conflict"),
  (410, "Gone"), (411, "Length Required"), (412, "Precondition Failed"),
  (413, "Request Entity Too Large"), (414, "Request-URI Too Long"),
  (415, "Unsupported Media Type"), (416, "Requested Range Not Satisfiable"),
  (417, "Expectation Failed"), (418, "I'm a teapot"), (421, "Misdirected Request"),
  (422, "Unprocessable Entity"), (423, "Locked"), (424, "Failed Dependency"), (425, "Too Early"),
  (426, "Upgrade Required"), (428, "Precondition Required"), (429, "Too Many Requests"),
  (431, "Request Header Fields Too Large"), (451, "Unavailable For Legal Reasons"),
  (500, "Internal Server Error"), (501, "Not Implemented"), (502, "Bad Gateway"),
  (503, "Service Unavailable"), (504, "Gateway Timeout"), (505, "HTTP Version Not Supported"),
  (506, "Variant Also Negotiates"), (507, "Insufficient Storage"), (508, "Loop Detected"),
  (510, "Not Extended"), (511, "Network Authentication Required")]

/-- The phrase of a status; empty for one without. -/
def statusPhrase (status : Nat) : String :=
  (statusPhrases.lookup status).getD ""

end ODataExplorer.Fetch
