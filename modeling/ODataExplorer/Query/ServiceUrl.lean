import ODataExplorer.Url.Parts

/-!
The URLs of a service.

Whatever URL of a service is given, its metadata document is found at `$metadata` below the service
root. The root ends at the first segment that ends in `.svc`; without such a segment the whole path
is taken for it.
-/

namespace ODataExplorer.Query

open Text

/-- The last segment of the URL of a metadata document. -/
def metadataSegment : List Char := "$metadata".toList

/-- How the segment of an older service ends. -/
def serviceEnding : List Char := ".svc".toList

/-- A URL that cannot be split into its parts. -/
structure InvalidServiceUrl where
  url : String
  reason : Url.SplitError
  deriving DecidableEq, Repr

def InvalidServiceUrl.message (invalid : InvalidServiceUrl) : String :=
  s!"Invalid service URL {quoted invalid.url}: {invalid.reason.message}"

def isSlash (c : Char) : Bool := c == '/'

/-- Whether a path leads to a metadata document. -/
def isMetadataPath (path : List Char) : Bool :=
  endsWith metadataSegment (dropEndWhile isSlash path)

/-- The path of the service root, without a slash at its end. -/
def rootPath (path : List Char) : List Char :=
  match cutWord? (serviceEnding ++ ['/']) path with
  | some (before, _) => before ++ serviceEnding
  | none => if endsWith serviceEnding path then path else dropEndWhile isSlash path

/-- The URL of the metadata document of a service. A URL that leads to one is returned as it is. -/
def metadataUrl (url : String) : Except InvalidServiceUrl String :=
  match Url.split (trimWhile isBlank url.toList) with
  | .error reason => .error ⟨url, reason⟩
  | .ok parts =>
    if isMetadataPath parts.path then .ok url
    else
      let path := rootPath parts.path ++ '/' :: metadataSegment
      .ok (String.ofList (Url.join parts.scheme parts.authority path))

/-- The service root of the URL of a metadata document: the query, the slashes at the end and the
last segment are dropped. -/
def serviceRoot (url : String) : String :=
  let root := dropEndWhile isSlash (beforeFirst '?' url.toList)
  let root :=
    if endsWith metadataSegment root then root.take (root.length - metadataSegment.length) else root
  String.ofList (dropEndWhile isSlash root)

end ODataExplorer.Query
