import ODataExplorer.Csdl.Version
import ODataExplorer.Query.Selection
import ODataExplorer.Query.ServiceUrl
import ODataExplorer.Url.Form

/-!
Compiling a selection into the URL of a request.

The options come in a fixed order and each at most once. Only the request for a count depends on the
version. Selecting every declared property is the same as selecting nothing, and is sent that way.

The texts of a selection are texts of Unicode scalars, so all of them have bytes that can be escaped.
A text with half of a pair in it has none, and whoever escapes it fails; no selection holds one.
-/

namespace ODataExplorer.Query

open Text

/-- The names of a list that are not empty, in order of first occurrence. -/
def distinctNames (names : List String) : List String :=
  unique (names.filter (!·.isEmpty))

/-- Whether two lists hold the same names. -/
def sameNames (left right : List String) : Bool :=
  left.all right.contains && right.all left.contains

/-- An option that is present when its value is not empty. -/
def textOption (name value : String) : List (String × String) :=
  if value.isEmpty then [] else [(name, value)]

/-- An option with a number, which is written in full however many digits it has. A writer with a
limit of digits, as there are some of 4300, writes the same: whoever hands a selection over has read
its numbers from digits under that limit. -/
def numberOption (name : String) : Option Int → List (String × String)
  | some n => [(name, toString n)]
  | none => []

/-- The option that asks for a count. -/
def countOption (version? : Option String) : String × String :=
  if version?.any Csdl.isModernVersion then ("$count", "true") else ("$inlinecount", "allpages")

namespace Selection

/-- The selected properties, none if they are all that are declared. -/
def selectedNames (declared? : Option (List String)) (selection : Selection) : List String :=
  let names := distinctNames selection.select
  if declared?.any (sameNames names) then [] else names

/-- The options of a selection in canonical order. -/
def options (version? : Option String) (declared? : Option (List String))
    (selection : Selection) : List (String × String) :=
  textOption "$select" (joined "," (selection.selectedNames declared?)) ++
  textOption "$expand" (joined "," (distinctNames selection.expand)) ++
  textOption "$filter" (selection.filter?.getD "") ++
  (match selection.orderBy? with
    | some order =>
      if order.isEmpty then [] else [("$orderby", order ++ " " ++ selection.direction.word)]
    | none => []) ++
  numberOption "$top" selection.top? ++
  numberOption "$skip" selection.skip? ++
  (if selection.count then [countOption version?] else [])

/-- The URL of the set of a selection. -/
def base (serviceRoot : String) (selection : Selection) : String :=
  dropTrailingSlashes serviceRoot ++ "/" ++ selection.set

end Selection

/-- The URL of a request, and the same URL as people read it. -/
structure Compiled where
  url : String
  displayUrl : String
  deriving DecidableEq, Repr

/-- A URL with its form encoding undone, if that is possible. -/
def displayed (url : String) : String :=
  String.ofList (Url.Form.decode url.toList)

/-- Compiles a selection. -/
def compile (serviceRoot : String) (selection : Selection) (version? : Option String)
    (declared? : Option (List String)) : Compiled :=
  let query := Url.Form.encodeFields (selection.options version? declared?)
  let base := selection.base serviceRoot
  let url := if query.isEmpty then base else base ++ "?" ++ String.ofList query
  ⟨url, displayed url⟩

end ODataExplorer.Query
