import ODataExplorer.Text.Blank
import ODataExplorer.Text.Split

/-!
References to types.

A reference is a name, qualified or not, or a collection of one: `Collection(Model.Order)`. Its
reduced name is what stands after the last full stop, the wrapping taken off.
-/

namespace ODataExplorer.Csdl

open Text

/-- What a reference to a collection starts with. -/
def collectionOpening : List Char := "Collection(".toList

/-- A reference to a collection, on characters. -/
def isCollectionText (cs : List Char) : Bool :=
  collectionOpening.isPrefixOf cs && endsWith [')'] cs

/-- Whether a reference is one to a collection. -/
def isCollectionType (reference : String) : Bool :=
  isCollectionText reference.toList

/-- A reference to a collection of a type. -/
def collectionOf (type : String) : String :=
  "Collection(" ++ type ++ ")"

/-- The unqualified name of the type that a reference, or a collection, is about. -/
def reduceTypeName (reference : String) : String :=
  let trimmed := trimWhile isBlank reference.toList
  let inner :=
    if isCollectionText trimmed then
      trimWhile isBlank ((trimmed.drop collectionOpening.length).dropLast)
    else trimmed
  String.ofList (afterLast '.' inner)

end ODataExplorer.Csdl
