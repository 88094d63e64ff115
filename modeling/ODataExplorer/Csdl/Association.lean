import ODataExplorer.Csdl.Lookup
import ODataExplorer.Csdl.TypeName
import ODataExplorer.Log.Entry

/-!
Associations.

Before version 4 a navigation has no type of its own. It names an association and one of its two
roles, and the end of that role says the type and whether there may be many. Two tables are kept:
one by qualified name, under the namespace of the schema and under its alias, and one by the bare
name, for documents that qualify relationships inconsistently. In both the first entry of a name
wins.
-/

namespace ODataExplorer.Csdl

open Xml Text

/-- An end of an association: its role and the type that it leads to. -/
structure AssociationEnd where
  role : String
  target : String
  deriving DecidableEq, Repr

/-- The two ends of an association. -/
structure Association where
  first : AssociationEnd
  second : AssociationEnd
  deriving DecidableEq, Repr

namespace Association

/-- The target of a role. Where both ends have it, the second one counts. -/
def target? (role : String) (association : Association) : Option String :=
  if association.second.role == role then some association.second.target
  else if association.first.role == role then some association.first.target
  else none

/-- The targets by role; a role that both ends have is listed once. -/
def roles (association : Association) : List (String × String) :=
  let first := association.first
  let second := association.second
  if first.role == second.role then [(second.role, second.target)]
  else [(first.role, first.target), (second.role, second.target)]

end Association

/-- The multiplicity of an end that leads to many. -/
def many : String := "*"

/-- The type an end leads to. -/
def endTarget? (element : Element) : Option String :=
  let type := trim (element.getText "Type")
  if type.isEmpty then none
  else if trim (element.getText "Multiplicity") == many then some (collectionOf type)
  else some type

/-- An end with a role and a type. -/
def readEnd? (element : Element) : Option AssociationEnd :=
  let role := element.getText "Role"
  match endTarget? element with
  | some target => if role.isEmpty then none else some ⟨role, target⟩
  | none => none

/-- The ends of an association, if there are exactly two and both are usable. -/
def readAssociation? (element : Element) : Option Association :=
  match childrenNamed "End" element with
  | [first, second] =>
    match readEnd? first, readEnd? second with
    | some first, some second => some ⟨first, second⟩
    | _, _ => none
  | _ => none

/-- How an association element was read. -/
inductive AssociationReading where
  | unnamed
  | unusable (name : String)
  | usable (name : String) (association : Association)
  deriving DecidableEq, Repr

def AssociationReading.ofElement (element : Element) : AssociationReading :=
  let name := element.getText "Name"
  if name.isEmpty then .unnamed
  else
    match readAssociation? element with
    | some association => .usable name association
    | none => .unusable name

/-- The association elements of a schema as they were read. -/
def associationReadings (schema : Element) : List AssociationReading :=
  (findAll "Association" schema).map .ofElement

/-- The names by which a schema may be referred to. -/
def qualifiers (schema : Element) : List String :=
  [schema.getText "Namespace", schema.getText "Alias"].filter (!·.isEmpty)

/-- A table in which the first entry of a name wins. -/
abbrev AssociationTable := List (String × Association)

/-- Adds an entry, unless the name is there already. -/
def AssociationTable.addNew (name : String) (association : Association)
    (table : AssociationTable) : AssociationTable :=
  if (table.lookup name).isSome then table else table ++ [(name, association)]

/-- The associations of a document. -/
structure Associations where
  qualified : AssociationTable := []
  bare : AssociationTable := []
  deriving DecidableEq, Repr

namespace Associations

/-- Adds an association under every qualifier of its schema and under its bare name. -/
def add (qualifiers : List String) (name : String) (association : Association)
    (associations : Associations) : Associations where
  qualified := qualifiers.foldl
    (fun table qualifier => table.addNew (qualifier ++ "." ++ name) association)
    associations.qualified
  bare := associations.bare.addNew name association

/-- Adds what can be used of a schema. -/
def addSchema (schema : Element) (associations : Associations) : Associations :=
  (associationReadings schema).foldl
    (fun associations reading =>
      match reading with
      | .usable name association => associations.add (qualifiers schema) name association
      | _ => associations)
    associations

/-- The associations of a list of schemas. -/
def ofSchemas (schemas : List Element) : Associations :=
  schemas.foldl (fun associations schema => associations.addSchema schema) {}

/-- The number of bare names. -/
def size (associations : Associations) : Nat := associations.bare.length

/-- The association that a relationship names: by its qualified name, else by its bare one. -/
def find? (relationship : String) (associations : Associations) : Option Association :=
  (associations.qualified.lookup relationship).or
    (associations.bare.lookup (String.ofList (afterLast '.' relationship.toList)))

/-- The target of a role of a relationship; nothing when any step misses. -/
def resolve? (relationship role : String) (associations : Associations) : Option String :=
  if relationship.isEmpty || role.isEmpty then none
  else (associations.find? relationship).bind (·.target? role)

/-- The log of reading the associations of a list of schemas. -/
def log (schemas : List Element) : List Log.Entry :=
  let skipped := schemas.flatMap fun schema =>
    (associationReadings schema).filterMap fun
      | .unusable name => some (.debug s!"Skipping association {name}: expected two typed ends")
      | _ => none
  let count := (ofSchemas schemas).qualified.length
  skipped ++ [.debug s!"Indexed {count} qualified association ids"]

end Associations

end ODataExplorer.Csdl
