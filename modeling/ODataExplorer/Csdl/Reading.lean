import ODataExplorer.Csdl.Association
import ODataExplorer.Csdl.Model
import ODataExplorer.Text.Quoted

/-!
Reading schemas.

What cannot be used is left out, and a reading says so: every key reference and every navigation of
a type gets a verdict, in document order. The kept parts, the number of dropped ones and the log
are three views of the same verdicts.
-/

namespace ODataExplorer.Csdl

open Xml Text

/-! ## Properties and keys -/

/-- A property as declared. Only the word `false` makes it one that needs a value. -/
def readProperty (element : Element) : Property where
  name := element.getText "Name"
  type := element.getText "Type"
  nullable := element.get? "Nullable" != some "false"

/-- The properties of a list of elements: those with a name, the first of each. -/
def keepProperties (kept : List Property) : List Element → List Property
  | [] => kept
  | element :: rest =>
    let property := readProperty element
    if property.name.isEmpty || kept.any (·.name == property.name) then keepProperties kept rest
    else keepProperties (kept ++ [property]) rest

/-- The properties of a type. -/
def readProperties (type : Element) : List Property :=
  keepProperties [] (childrenNamed "Property" type)

/-- The verdict on a key reference. -/
inductive KeyReading where
  | undeclared (name? : Option String)
  | repeated (name : String)
  | kept (name : String)
  deriving DecidableEq, Repr

/-- The verdicts on key references, given the declared properties and the keys kept before. -/
def judgeKeys (declared : List String) (kept : List String) : List Element → List KeyReading
  | [] => []
  | element :: rest =>
    match element.get? "Name" with
    | none => .undeclared none :: judgeKeys declared kept rest
    | some name =>
      if !declared.contains name then .undeclared (some name) :: judgeKeys declared kept rest
      else if kept.contains name then .repeated name :: judgeKeys declared kept rest
      else .kept name :: judgeKeys declared (kept ++ [name]) rest

/-- The key references of a type: those below its first key element. -/
def keyReferences (type : Element) : List Element :=
  match findFirst? "Key" type with
  | some key => findAll "PropertyRef" key
  | none => []

/-- The verdicts on the keys of a type. -/
def readKeys (declared : List String) (type : Element) : List KeyReading :=
  judgeKeys declared [] (keyReferences type)

def KeyReading.kept? : KeyReading → Option String
  | .kept name => some name
  | _ => none

/-! ## Navigations -/

/-- The first constraint that names both its properties. -/
def readConstraint? (navigation : Element) : Option ReferentialConstraint :=
  (childrenNamed "ReferentialConstraint" navigation).findSome? fun element =>
    let property := element.getText "Property"
    let referenced := element.getText "ReferencedProperty"
    if property.isEmpty || referenced.isEmpty then none else some ⟨property, referenced⟩

/-- The type of a navigation: the one it declares, else the one its association gives. -/
def navigationType? (associations? : Option Associations) (navigation : Element) : Option String :=
  let declared := trim (navigation.getText "Type")
  if declared.isEmpty then
    associations?.bind fun associations =>
      associations.resolve? (navigation.getText "Relationship") (navigation.getText "ToRole")
  else some declared

/-- The verdict on a navigation element. -/
inductive NavigationReading where
  | unnamed
  | repeated (name : String)
  | unresolved (name : String)
  | kept (navigation : Navigation)
  deriving DecidableEq, Repr

/-- The verdicts on navigation elements, given the names kept before. A dropped navigation leaves
its name free. -/
def judgeNavigations (associations? : Option Associations) (kept : List String) :
    List Element → List NavigationReading
  | [] => []
  | element :: rest =>
    let name := element.getText "Name"
    if name.isEmpty then .unnamed :: judgeNavigations associations? kept rest
    else if kept.contains name then .repeated name :: judgeNavigations associations? kept rest
    else
      match navigationType? associations? element with
      | none => .unresolved name :: judgeNavigations associations? kept rest
      | some type =>
        .kept ⟨name, type, readConstraint? element⟩ ::
          judgeNavigations associations? (kept ++ [name]) rest

/-- The verdicts on the navigations of a type. -/
def readNavigations (associations? : Option Associations) (type : Element) :
    List NavigationReading :=
  judgeNavigations associations? [] (childrenNamed "NavigationProperty" type)

def NavigationReading.kept? : NavigationReading → Option Navigation
  | .kept navigation => some navigation
  | _ => none

def NavigationReading.isDropped : NavigationReading → Bool
  | .unresolved _ => true
  | _ => false

/-! ## Types -/

/-- A type element with a name, as it was read. -/
structure TypeReading where
  name : String
  namespaceName : String
  properties : List Property
  keys : List KeyReading
  navigations : List NavigationReading
  deriving DecidableEq, Repr

namespace TypeReading

/-- Reads a type element; without a name it is left out. -/
def ofElement? (associations? : Option Associations) (namespaceName : String)
    (element : Element) : Option TypeReading :=
  let name := element.getText "Name"
  let properties := readProperties element
  if name.isEmpty then none
  else some {
    name, namespaceName, properties
    keys := readKeys (properties.map (·.name)) element
    navigations := readNavigations associations? element }

/-- The type with what was kept of it. -/
def entityType (reading : TypeReading) : EntityType where
  name := reading.name
  namespaceName := reading.namespaceName
  keys := reading.keys.filterMap KeyReading.kept?
  properties := reading.properties
  navigations := reading.navigations.filterMap NavigationReading.kept?

/-- How many navigations of the type were dropped. -/
def droppedCount (reading : TypeReading) : Nat :=
  reading.navigations.countP NavigationReading.isDropped

/-- What the log says about the type. -/
def log (reading : TypeReading) : List Log.Entry :=
  let type := reading.name
  let keys := reading.keys.filterMap fun
    | .undeclared name? =>
      some (.debug s!"Dropping key {quotedOrNone name?} of {type}: not a declared property")
    | _ => none
  let navigations := reading.navigations.filterMap fun
    | .unresolved name =>
      some (.debug s!"Dropping navigation {type}.{name}: target type unresolved")
    | _ => none
  keys ++ navigations

end TypeReading

/-! ## Schemas -/

/-- A schema as it was read: its types, `none` standing for one without a name, and its sets. -/
structure SchemaReading where
  namespaceName : String
  types : List (Option TypeReading)
  sets : List EntitySet
  deriving DecidableEq, Repr

namespace SchemaReading

/-- A set as declared. -/
def readSet (element : Element) : EntitySet where
  name := element.getText "Name"
  entityType := element.getText "EntityType"

/-- The sets of all containers of a schema. -/
def readSets (schema : Element) : List EntitySet :=
  (findAll "EntityContainer" schema).flatMap fun container =>
    (childrenNamed "EntitySet" container).map readSet

/-- Reads a schema element. -/
def ofElement (associations? : Option Associations) (schema : Element) : SchemaReading :=
  let namespaceName := schema.getText "Namespace"
  { namespaceName
    types := (findAll "EntityType" schema).map (TypeReading.ofElement? associations? namespaceName)
    sets := readSets schema }

/-- The types of a schema that have a name. -/
def namedTypes (reading : SchemaReading) : List TypeReading := reading.types.filterMap id

/-- What the log says about the types of a schema. -/
def log (reading : SchemaReading) : List Log.Entry :=
  reading.types.flatMap fun
    | some type => type.log
    | none => [.debug s!"Skipping unnamed EntityType in schema {reading.namespaceName}"]

end SchemaReading

end ODataExplorer.Csdl
