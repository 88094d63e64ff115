import ODataExplorer.Csdl.TypeName
import ODataExplorer.Csdl.Version

/-!
The schema model: what a metadata document says, in whatever dialect it says it.

Records refer to each other by name only. Properties, navigations, types and sets are kept in
document order.
-/

namespace ODataExplorer.Csdl

/-- A property with a value. -/
structure Property where
  name : String
  type : String
  nullable : Bool
  deriving DecidableEq, Repr

/-- Ties a property to one of the type that a navigation leads to. -/
structure ReferentialConstraint where
  property : String
  referencedProperty : String
  deriving DecidableEq, Repr

/-- A navigation to one entity or to a collection of them. -/
structure Navigation where
  name : String
  type : String
  constraint? : Option ReferentialConstraint
  deriving DecidableEq, Repr

namespace Navigation

/-- The unqualified name of the type a navigation leads to. -/
def targetType (navigation : Navigation) : String := reduceTypeName navigation.type

/-- Whether a navigation leads to a collection. -/
def isCollection (navigation : Navigation) : Bool := isCollectionType navigation.type

end Navigation

/-- A type of entities. Its keys name properties it declares. -/
structure EntityType where
  name : String
  namespaceName : String
  keys : List String
  properties : List Property
  navigations : List Navigation
  deriving DecidableEq, Repr

namespace EntityType

/-- The name with the namespace in front, if there is one. -/
def qualifiedName (type : EntityType) : String :=
  if type.namespaceName.isEmpty then type.name else type.namespaceName ++ "." ++ type.name

def propertyNames (type : EntityType) : List String := type.properties.map (·.name)

end EntityType

/-- A named set of entities, with its type as declared. -/
structure EntitySet where
  name : String
  entityType : String
  deriving DecidableEq, Repr

namespace EntitySet

/-- The unqualified name of the type of the entities. -/
def typeName (set : EntitySet) : String := reduceTypeName set.entityType

end EntitySet

/-- A metadata document. -/
structure Model where
  types : List EntityType
  sets : List EntitySet
  /-- The namespace that contributes the most types. -/
  namespaceName : String
  /-- The namespaces of the schemas in document order. -/
  namespaces : List String
  versions : Versions
  deriving DecidableEq, Repr

namespace Model

/-- Whether the document speaks the modern dialect. -/
def isModern (model : Model) : Bool := isModernVersion model.versions.protocol

/-- The type that a reference is about. -/
def typeNamed? (reference : String) (model : Model) : Option EntityType :=
  let reduced := reduceTypeName reference
  model.types.find? (·.name == reduced)

/-- The set of a name. -/
def setNamed? (name : String) (model : Model) : Option EntitySet :=
  model.sets.find? (·.name == name)

/-- The type of the entities of a set. -/
def typeOfSet? (name : String) (model : Model) : Option EntityType := do
  let set ← model.setNamed? name
  model.typeNamed? set.entityType

end Model

end ODataExplorer.Csdl
