import ODataExplorer.Text.Split
import ODataExplorer.Xml.Tree

/-!
Looking up elements by local name.

Producers of metadata documents do not agree on namespaces, while the vocabulary is the same
everywhere. A lookup therefore goes by local names, in four tiers: tags without a namespace, tags in
a namespace of the envelope, tags in a namespace of the data model, and tags in any namespace. The
first tier that finds something decides, and what it finds comes in document order.
-/

namespace ODataExplorer.Csdl

open Xml

/-- The namespaces of the envelope, oldest first. -/
def envelopeNamespaces : List String := [
  "http://schemas.microsoft.com/ado/2007/06/edmx",
  "http://docs.oasis-open.org/odata/ns/edmx"]

/-- The namespaces of the data model, oldest first. -/
def modelNamespaces : List String := [
  "http://schemas.microsoft.com/ado/2006/04/edm",
  "http://schemas.microsoft.com/ado/2007/05/edm",
  "http://schemas.microsoft.com/ado/2008/01/edm",
  "http://schemas.microsoft.com/ado/2008/09/edm",
  "http://schemas.microsoft.com/ado/2009/11/edm",
  "http://docs.oasis-open.org/odata/ns/edm"]

/-- A tag or attribute name without its namespace, and without a prefix that was never resolved. -/
def localName (name : String) : String :=
  String.ofList (Text.afterLast ':' (Text.afterLast '\x7d' name.toList))

/-- How exactly a tag has to fit a name. -/
inductive Tier where
  | bare
  | envelope
  | model
  | anyNamespace
  deriving DecidableEq, Repr

/-- A name qualified by a namespace. -/
def qualify (uri name : String) : String :=
  "\x7b" ++ uri ++ "\x7d" ++ name

/-- Whether a tag fits a name in a tier. -/
def Tier.admits (name tag : String) : Tier → Bool
  | .bare => tag == name
  | .envelope => envelopeNamespaces.any fun uri => tag == qualify uri name
  | .model => modelNamespaces.any fun uri => tag == qualify uri name
  | .anyNamespace => localName tag == name

/-- The tiers in the order in which they are tried. -/
def Tier.all : List Tier := [.bare, .envelope, .model, .anyNamespace]

/-- What the first successful tier finds among candidates whose tags `tagOf` gives. -/
def narrow {α : Type} (tagOf : α → String) (name : String) (candidates : List α) :
    List Tier → List α
  | [] => []
  | tier :: tiers =>
    let found := candidates.filter fun candidate => tier.admits name (tagOf candidate)
    if found.isEmpty then narrow tagOf name candidates tiers else found

/-- The candidates with a name. The empty name names nothing. -/
def lookup {α : Type} (tagOf : α → String) (name : String) (candidates : List α) : List α :=
  if name.isEmpty then [] else narrow tagOf name candidates Tier.all

/-- The elements of a name below an element, at any depth. -/
def findAll (name : String) (container : Element) : List Element :=
  lookup Element.tag name container.descendants

/-- The first element of a name below an element. -/
def findFirst? (name : String) (container : Element) : Option Element :=
  (findAll name container).head?

/-- The children of a name, whatever their namespace. -/
def childrenNamed (name : String) (container : Element) : List Element :=
  container.children.filter fun child => localName child.tag == name

/-- The value of an attribute by its local name. An attribute without a namespace comes first. -/
def attributeByLocalName? (name : String) (element : Element) : Option String :=
  (element.get? name).or
    ((element.attributes.find? fun (key, _) => localName key == name).map (·.2))

/-! ## Places -/

/-- The places of a name below a place, at any depth. -/
def placesNamed (name : String) (container : Place) : List Place :=
  lookup (fun place => place.element.tag) name container.descendants

/-- The places of the children of a name. -/
def childPlacesNamed (name : String) (container : Place) : List Place :=
  container.children.filter fun child => localName child.element.tag == name

end ODataExplorer.Csdl
