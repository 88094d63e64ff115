import ODataExplorer.Text.Blank
import ODataExplorer.Text.Case
import ODataExplorer.Text.Quoted
import ODataExplorer.Url.Address

/-!
The parts of a URL.

A text is split without regard to what it may mean: scheme, authority, path, query and fragment are
cut at their delimiters, and whatever is left is the path. Only an authority can be wrong, by its
brackets or by a character that stands for a delimiter in disguise.
-/

namespace ODataExplorer.Url

open Text

/-- The parts of a URL, delimiters left out. An absent part is empty. -/
structure Parts where
  scheme : List Char
  authority : List Char
  path : List Char
  query : List Char
  fragment : List Char
  deriving DecidableEq, Repr

/-- What is wrong with an authority. -/
inductive SplitError where
  | brackets
  | futureAddress
  | notAnAddress (host : List Char)
  | bracketedIpv4
  | disguisedDelimiter (authority : List Char)
  deriving DecidableEq, Repr

def SplitError.message : SplitError → String
  | .brackets => "Invalid IPv6 URL"
  | .futureAddress => "IPvFuture address is invalid"
  | .notAnAddress host =>
    quoted (String.ofList host) ++ " does not appear to be an IPv4 or IPv6 address"
  | .bracketedIpv4 => "An IPv4 address cannot be in brackets"
  | .disguisedDelimiter authority =>
    "netloc '" ++ String.ofList authority ++
      "' contains invalid characters under NFKC normalization"

/-! ## Authorities -/

/-- A bracketed host that announces a later version: `v`, hexadecimal digits, a full stop and at
least one character. -/
def isFutureHost (host : List Char) : Bool :=
  match host with
  | 'v' :: rest =>
    let digits := rest.takeWhile fun c => (hexValue? c).isSome
    match rest.drop digits.length with
    | '.' :: _ :: _ => !digits.isEmpty
    | _ => false
  | _ => false

/-- Checks a host that stands in brackets. -/
def checkBracketedHost (host : List Char) : Except SplitError Unit :=
  if host.head? == some 'v' then
    if isFutureHost host then .ok () else .error .futureAddress
  else if isIpv4Address host then .error .bracketedIpv4
  else if isIpv6Address host then .ok ()
  else .error (.notAnAddress host)

/-- Checks the brackets of an authority. Without any there is nothing to check; with both kinds the
host, after any user, has to be an address. -/
def checkBrackets (authority : List Char) : Except SplitError Unit :=
  match authority.contains '[', authority.contains ']' with
  | false, false => .ok ()
  | true, true =>
    let hostAndPort := afterLast '@' authority
    match cut? '[' hostAndPort with
    | some (before, bracketed) =>
      let (host, port) := (cut? ']' bracketed).getD (bracketed, [])
      if !before.isEmpty then .error .brackets
      else if !port.isEmpty && port.head? != some ':' then .error .brackets
      else checkBracketedHost host
    | none => checkBracketedHost (beforeFirst ':' hostAndPort)
  | _, _ => .error .brackets

/-- Characters whose compatibility form holds a delimiter. -/
def disguisedDelimiters : List Nat := [
  0x2047, 0x2048, 0x2049, 0x2100, 0x2101, 0x2105, 0x2106, 0x2A74, 0xFE13, 0xFE16, 0xFE55, 0xFE56,
  0xFE5F, 0xFE6B, 0xFF03, 0xFF0F, 0xFF1A, 0xFF1F, 0xFF20]

/-- Checks that no character of an authority is a delimiter in disguise. -/
def checkDisguises (authority : List Char) : Except SplitError Unit :=
  if authority.any fun c => disguisedDelimiters.contains c.toNat then
    .error (.disguisedDelimiter authority)
  else .ok ()

/-! ## Splitting -/

/-- Characters that are removed wherever they stand. -/
def isRemoved (c : Char) : Bool := c == '\t' || c == '\n' || c == '\r'

/-- Drops controls and spaces at the beginning, tabs and line ends everywhere. -/
def cleaned (cs : List Char) : List Char :=
  (cs.dropWhile (·.toNat ≤ 0x20)).filter (!isRemoved ·)

def isAsciiLetter (c : Char) : Bool := ('a' ≤ c && c ≤ 'z') || ('A' ≤ c && c ≤ 'Z')

/-- A character of a scheme. -/
def isSchemeChar (c : Char) : Bool :=
  isAsciiLetter c || ('0' ≤ c && c ≤ '9') || c == '+' || c == '-' || c == '.'

/-- Cuts off the scheme, if what stands before the first colon is one. -/
def cutScheme (cs : List Char) : List Char × List Char :=
  match cut? ':' cs with
  | some (before, after) =>
    if before.head?.any isAsciiLetter && before.all isSchemeChar then
      (before.map asciiLower, after)
    else ([], cs)
  | none => ([], cs)

/-- A character that ends an authority. -/
def endsAuthority (c : Char) : Bool := c == '/' || c == '?' || c == '#'

/-- Cuts off the authority, if two slashes announce one. -/
def cutAuthority : List Char → List Char × List Char
  | '/' :: '/' :: cs => (cs.takeWhile (!endsAuthority ·), cs.dropWhile (!endsAuthority ·))
  | cs => ([], cs)

/-- The parts of a URL. -/
def split (url : List Char) : Except SplitError Parts := do
  let (scheme, rest) := cutScheme (cleaned url)
  let (authority, rest) := cutAuthority rest
  checkBrackets authority
  let (rest, fragment) := (cut? '#' rest).getD (rest, [])
  let (path, query) := (cut? '?' rest).getD (rest, [])
  checkDisguises authority
  return { scheme, authority, path, query, fragment }

/-! ## Joining -/

/-- The schemes whose URLs have an authority. -/
def authoritySchemes : List String := [
  "", "ftp", "http", "gopher", "nntp", "telnet", "imap", "wais", "file", "mms", "https", "shttp",
  "snews", "prospero", "rtsp", "rtspu", "rsync", "svn", "svn+ssh", "sftp", "nfs", "git", "git+ssh",
  "ws", "wss"]

/-- A path that can follow an authority. -/
def rooted (path : List Char) : List Char :=
  if path.isEmpty || path.head? == some '/' then path else '/' :: path

/-- Whether a path begins like an authority. -/
def looksLikeAuthority (path : List Char) : Bool := ['/', '/'].isPrefixOf path

/-- The text of a scheme, an authority and a path. An empty authority is written where the scheme
asks for one and the path cannot be taken for another. Without an authority a path that begins with
two slashes is written as it is, and will be taken for one: there, joining does not undo
splitting. -/
def join (scheme authority path : List Char) : List Char :=
  let asksForAuthority :=
    !scheme.isEmpty && authoritySchemes.contains (String.ofList scheme) &&
      !looksLikeAuthority path
  let hierarchical :=
    if !authority.isEmpty || asksForAuthority then '/' :: '/' :: authority ++ rooted path else path
  if scheme.isEmpty then hierarchical else scheme ++ ':' :: hierarchical

end ODataExplorer.Url
