import ODataExplorer.Domain.Name
import ODataExplorer.Number.Reading
import ODataExplorer.Url.Form
import ODataExplorer.Url.Parts

/-!
The addresses of requests.

The text of a URL is checked before anything is sent: its length, its characters, and in its
authority the host and the port. A URL without a scheme or without a host is a relative one; it is
sent below the root, where no service can be found.

The texts are texts of Unicode scalars. There is no fault for half of a pair, which no address can
hold.
-/

namespace ODataExplorer.Fetch

open Text

/-- What is wrong with the text of a URL. -/
inductive AddressFault where
  | tooLong
  | control (c : Char) (index : Nat)
  | ipv4 (host : String)
  | ipv6 (host : String)
  /-- A host beyond ASCII that is no domain name. -/
  | domain (host : String)
  | port (text : String)
  | doubleSlash
  | leadingColon
  /-- A path after an authority that does not begin with a slash. -/
  | rootlessPath
  /-- A control in the text that a fragment stands for. -/
  | fragmentControl (c : Char) (index : Nat)
  deriving DecidableEq, Repr

def AddressFault.message : AddressFault → String
  | .tooLong => "URL too long"
  | .control c index =>
    let shown := quoted (String.ofList [c])
    s!"Invalid non-printable ASCII character in URL, {shown} at position {index}."
  | .ipv4 host => s!"Invalid IPv4 address: {quoted host}"
  | .ipv6 host => s!"Invalid IPv6 address: {quoted host}"
  | .domain host => s!"Invalid IDNA hostname: {quoted host}"
  | .port text => s!"Invalid port: {quoted text}"
  | .doubleSlash => "Relative URLs cannot have a path starting with '//'"
  | .leadingColon => "Relative URLs cannot have a path starting with ':'"
  | .rootlessPath => "For absolute URLs, path must be empty or begin with '/'"
  | .fragmentControl c index =>
    let shown := quoted (String.ofList [c])
    s!"Invalid non-printable ASCII character in URL fragment component, {shown} at position {index}."

/-- The parts of a URL as a client takes them. The scheme is in lower case. -/
structure Address where
  scheme : List Char
  user : List Char
  host : List Char
  port : List Char
  path : List Char
  query? : Option (List Char)
  fragment? : Option (List Char)
  deriving DecidableEq, Repr

/-- The longest text of a URL. -/
def longestUrl : Nat := 65536

def isLetter (c : Char) : Bool := ('a' ≤ c && c ≤ 'z') || ('A' ≤ c && c ≤ 'Z')

/-- Cuts off the scheme. A colon at the very beginning ends an empty one. -/
def cutScheme (cs : List Char) : List Char × List Char :=
  let isPart := fun c => isLetter c || ('0' ≤ c && c ≤ '9') || c == '+' || c == '.' || c == '-'
  let scheme := if cs.head?.any isLetter then cs.takeWhile isPart else []
  match cs.drop scheme.length with
  | ':' :: rest => (scheme, rest)
  | _ => ([], cs)

/-- A host and the port after it. A host in brackets ends at the last of them. -/
def cutHost (cs : List Char) : List Char × List Char :=
  let bracketed := dropEndWhile (· != ']') cs
  let host :=
    if cs.head? == some '[' && !bracketed.isEmpty then bracketed else cs.takeWhile (· != ':')
  match cs.drop host.length with
  | ':' :: port => (host, port)
  | port => (host, port)

/-- The parts of a URL. -/
def Address.ofText (cs : List Char) : Address :=
  let (scheme, rest) := cutScheme cs
  let endsAuthority := fun c => c == '/' || c == '?' || c == '#'
  let (authority, rest) :=
    match rest with
    | '/' :: '/' :: rest =>
      (rest.takeWhile (!endsAuthority ·), rest.dropWhile (!endsAuthority ·))
    | rest => ([], rest)
  let hostAndPort := afterLast '@' authority
  let user := authority.take (authority.length - hostAndPort.length - 1)
  let (host, port) := cutHost hostAndPort
  let fragment? := (cut? '#' rest).map (·.2)
  let rest := beforeFirst '#' rest
  let path := beforeFirst '?' rest
  let query? := (cut? '?' rest).map (·.2)
  ⟨scheme.map asciiLower, user, host, port, path, query?, fragment?⟩

/-! ## Checks -/

/-- Four numbers with full stops between them: the look of an address of version 4. -/
def looksLikeIpv4 (host : List Char) : Bool :=
  let numbers := pieces '.' host
  numbers.length == 4 && numbers.all fun number => !number.isEmpty && number.all isAsciiDigit

/-- Whether brackets stand around a host. -/
def isBracketed (host : List Char) : Bool := host.head? == some '[' && endsWith [']'] host

/-- A host in lower case. -/
def lowerHost (host : List Char) : List Char := (lower (String.ofList host)).toList

/-- Checks a host. Beyond ASCII it has to be a domain name. -/
def checkHost (host : List Char) : Except AddressFault Unit :=
  if looksLikeIpv4 host then
    if Url.isIpv4Address host then .ok () else .error (.ipv4 (String.ofList host))
  else if isBracketed host then
    if Url.isIpv6Address ((host.drop 1).dropLast) then .ok ()
    else .error (.ipv6 (String.ofList host))
  else if host.all isAscii then .ok ()
  else
    match Domain.toAscii (lowerHost host) with
    | .ok _ => .ok ()
    | .error _ => .error (.domain (String.ofList host))

/-- The number of a port, if one is given. -/
def portNumber? (port : List Char) : Except AddressFault (Option Int) :=
  let text := String.ofList port
  if port.isEmpty then .ok none
  else
    match Number.readInteger text with
    | .ok number => .ok (some number)
    | .error _ => .error (.port text)

/-- The ports that need not be given. -/
def standardPorts : List (String × Int) :=
  [("ftp", 21), ("http", 80), ("https", 443), ("ws", 80), ("wss", 443)]

namespace Address

/-- The port, unless it is the one that the scheme stands for. -/
def ownPort? (address : Address) : Option Int :=
  match portNumber? address.port with
  | .ok (some number) =>
    if standardPorts.lookup (String.ofList address.scheme) == some number then none else some number
  | _ => none

/-- Whether anything but the path says where to go. -/
def hasAuthority (address : Address) : Bool :=
  !address.user.isEmpty || !address.host.isEmpty || address.ownPort?.isSome

/-- Checks the path of an address. After an authority it begins with a slash, and with nothing
before it it must not look like an authority or a scheme. -/
def checkPath (address : Address) : Except AddressFault Unit :=
  if address.hasAuthority then
    if address.path.isEmpty || address.path.head? == some '/' then .ok () else .error .rootlessPath
  else if !address.scheme.isEmpty then .ok ()
  else if Url.looksLikeAuthority address.path then .error .doubleSlash
  else if address.path.head? == some ':' then .error .leadingColon
  else .ok ()

/-- Whether a request can go to the address itself. -/
def isAbsolute (address : Address) : Bool :=
  !address.scheme.isEmpty && !address.host.isEmpty

end Address

/-- An ASCII character that is not printable. -/
def isControl (c : Char) : Bool := c.toNat < 0x20 || c.toNat == 0x7F

/-- The address that the text of a URL gives. -/
def readAddress (url : String) : Except AddressFault Address := do
  let cs := url.toList
  if cs.length > longestUrl then throw .tooLong
  match cs.findIdx? isControl with
  | some index => throw (.control (cs.getD index ' ') index)
  | none =>
    let address := Address.ofText cs
    checkHost address.host
    let _ ← portNumber? address.port
    address.checkPath
    return address

/-! ## Writing -/

/-- A text with the characters that are not safe written as bytes. What is written that way already
is left alone. -/
def escapeUnsafe (isSafe : Char → Bool) : List Char → List Char
  | '%' :: a :: b :: cs =>
    if (hexValue? a).isSome && (hexValue? b).isSome then '%' :: a :: b :: escapeUnsafe isSafe cs
    else escapeChar isSafe '%' ++ escapeUnsafe isSafe (a :: b :: cs)
  | c :: cs => escapeChar isSafe c ++ escapeUnsafe isSafe cs
  | [] => []
where
  escapeChar (isSafe : Char → Bool) (c : Char) : List Char :=
    if isSafe c then [c] else (Utf8.encodeChar c).flatMap Url.Form.encodeByte

/-- A printable ASCII character that is neither a space nor one of some signs. -/
def isPrintableBut (signs : List Char) (c : Char) : Bool :=
  0x20 < c.toNat && c.toNat < 0x7F && !signs.contains c

def isFragmentChar : Char → Bool := isPrintableBut ['"', '<', '>', '\x60']

def isQueryChar : Char → Bool := isPrintableBut ['"', '#', '<', '>']

def isPathChar : Char → Bool :=
  isPrintableBut ['"', '#', '<', '>', '?', '\x60', '\x7b', '\x7d']

def isUserChar : Char → Bool :=
  isPrintableBut ['"', '#', '<', '>', '?', '\x60', '\x7b', '\x7d', '/', ';', '=', '@', '[', '\\',
    ']', '^', '|']

def isHostChar : Char → Bool :=
  isPrintableBut ['#', '/', ':', '<', '>', '?', '@', '[', ']', '^']

/-- A path without its steps that stay where they are and those that go back. -/
def straightPath (path : List Char) : List Char :=
  let steps := pieces '/' path
  let goOn (done : List (List Char)) (step : List Char) : List (List Char) :=
    if step == ['.'] then done
    else if step == ['.', '.'] then if done == [[]] then done else done.dropLast
    else done ++ [step]
  if steps.contains ['.'] || steps.contains ['.', '.'] then joinWith ['/'] (steps.foldl goOn [])
  else path

namespace Address

/-- The host as it is sent: in ASCII and lower case, without brackets. -/
def sentHost (address : Address) : List Char :=
  let host := address.host
  if looksLikeIpv4 host then host
  else if isBracketed host then (host.drop 1).dropLast
  else if host.all isAscii then escapeUnsafe isHostChar (host.map asciiLower)
  else
    match Domain.toAscii (lowerHost host) with
    | .ok name => name
    | .error _ => host

/-- The authority as it is sent. -/
def sentAuthority (address : Address) : List Char :=
  let user := if address.user.isEmpty then [] else escapeUnsafe isUserChar address.user ++ ['@']
  let host := address.sentHost
  let host := if host.contains ':' then '[' :: host ++ [']'] else host
  let port :=
    match address.ownPort? with
    | some number => ':' :: (toString number).toList
    | none => []
  user ++ host ++ port

/-- The path as it is sent. -/
def sentPath (address : Address) : List Char :=
  let straightens := address.hasAuthority || !address.scheme.isEmpty
  escapeUnsafe isPathChar (if straightens then straightPath address.path else address.path)

/-- The query as it is sent, with its question mark. -/
def sentQuery (address : Address) : List Char :=
  match address.query? with
  | some query => '?' :: escapeUnsafe isQueryChar query
  | none => []

/-- The text under which a request to a relative address is sent: its path and query, below the
root. -/
def textBelowRoot (address : Address) : String :=
  String.ofList ('/' :: (address.sentPath ++ address.sentQuery).dropWhile (· == '/'))

/-- The text of a relative address. -/
def relativeText (address : Address) : String :=
  let authority := address.sentAuthority
  let authority := if authority.isEmpty then [] else '/' :: '/' :: authority
  let fragment :=
    match address.fragment? with
    | some fragment => '#' :: escapeUnsafe isFragmentChar fragment
    | none => []
  String.ofList (authority ++ address.sentPath ++ address.sentQuery ++ fragment)

end Address

end ODataExplorer.Fetch
