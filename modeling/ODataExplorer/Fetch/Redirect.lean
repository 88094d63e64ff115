import ODataExplorer.Fetch.Address

/-!
Redirects: from an address and the location that its answer gives to the next address.

A location with a scheme is an address of its own, though it may leave out the host. One without is
relative to the address that was asked, if the scheme of that address has relative addresses; under
any other scheme it stays relative and leads nowhere. A fragment is handed on to a location without
one. To compare where a redirect leads with where it comes from, a client reads the domain names of
both.
-/

namespace ODataExplorer.Fetch

open Text

/-- Why a redirect is not followed. -/
inductive RedirectFault where
  /-- The location is no URL. -/
  | location (fault : AddressFault)
  /-- The location and what it leaves out make no URL. -/
  | address (fault : AddressFault)
  /-- A host looks like a domain name in ASCII but is none. -/
  | domain (fault : Domain.Fault)
  deriving DecidableEq, Repr

/-- Where a redirect leads. -/
inductive Target where
  | absolute (address : Address)
  | relative (text : String)
  deriving DecidableEq, Repr

/-- The schemes that have relative addresses. -/
def relativeSchemes : List String := [
  "ftp", "http", "gopher", "nntp", "imap", "wais", "file", "https", "shttp", "mms", "prospero",
  "rtsp", "rtspu", "sftp", "svn", "svn+ssh", "ws", "wss"]

/-- Reads the domain name of a host that looks like one in ASCII. -/
def readDomain (address : Address) : Except RedirectFault Unit :=
  let host := address.sentHost
  if Domain.encodedMark.isPrefixOf host then
    match Domain.toText host with
    | .ok _ => .ok ()
    | .error fault => .error (.domain fault)
  else .ok ()

/-- The text that a fragment stands for. -/
def fragmentText (fragment : List Char) : List Char :=
  Utf8.decodeLossy (bytesOf fragment)
where
  bytesOf : List Char → List UInt8
    | '%' :: a :: b :: cs =>
      match hexValue? a, hexValue? b with
      | some high, some low => (16 * high + low).toUInt8 :: bytesOf cs
      | _, _ => '%'.toNat.toUInt8 :: bytesOf (a :: b :: cs)
    | c :: cs => Utf8.encodeChar c ++ bytesOf cs
    | [] => []

namespace Address

/-- The text that the fragment of an address stands for; empty without one. -/
def fragmentText (address : Address) : List Char :=
  Fetch.fragmentText (address.fragment?.getD [])

/-- Hands the fragment of one address on to another that has none. -/
def inheritFragment (source target : Address) : Except RedirectFault Address :=
  let text := source.fragmentText
  if text.isEmpty || !target.fragmentText.isEmpty then .ok target
  else
    match text.findIdx? isControl with
    | some index => .error (.address (.fragmentControl (text.getD index ' ') index))
    | none => .ok { target with fragment? := some text }

/-- A location that has a scheme, with the host it may leave out. -/
def withHostOf (source target : Address) : Except RedirectFault Address := do
  if !target.host.isEmpty then
    readDomain target
    return target
  readDomain source
  let target := { target with host := source.host }
  match target.checkPath with
  | .ok () => return target
  | .error fault => throw (.address fault)

/-- The path of a relative location: from the last slash of the path it is relative to. -/
def pathFrom (source target : Address) : List Char :=
  let path :=
    if target.path.isEmpty then source.path
    else if target.path.head? == some '/' then target.path
    else dropEndWhile (· != '/') source.path ++ target.path
  if path.head? == some '/' then path else '/' :: path

/-- A location without a scheme, as it stands under another address. -/
def resolveFrom (source target : Address) : Address :=
  if target.sentAuthority.isEmpty then
    { source with
      path := source.pathFrom target
      query? := if target.path.isEmpty then target.query?.or source.query? else target.query?
      fragment? := target.fragment? }
  else { target with scheme := source.scheme }

/-- The target that a location gives. -/
def redirect (source : Address) (location : String) : Except RedirectFault Target := do
  match readAddress location with
  | .error fault => throw (.location fault)
  | .ok target =>
    if !target.scheme.isEmpty then
      let target ← source.inheritFragment (← source.withHostOf target)
      readDomain source
      return .absolute target
    else if target.relativeText.isEmpty then
      readDomain source
      return .absolute source
    else if relativeSchemes.contains (String.ofList source.scheme) then
      let target ← source.inheritFragment (source.resolveFrom target)
      readDomain target
      readDomain source
      return .absolute target
    else
      let target ← source.inheritFragment target
      readDomain source
      return .relative target.relativeText

end Address

end ODataExplorer.Fetch
