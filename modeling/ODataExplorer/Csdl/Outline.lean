import ODataExplorer.Csdl.Document

/-!
Outlines: a model as text for people.
-/

namespace ODataExplorer.Csdl

open Text

namespace Model

/-- The line of a set. -/
def setLine (set : EntitySet) : String :=
  s!"  {set.name} -> {set.typeName}"

/-- The lines of a type: itself, its properties and its navigations. -/
def typeLines (type : EntityType) : List String :=
  let keys := joined ", " type.keys
  let properties := type.properties.map fun property =>
    let mark := if property.nullable then "" else " NOT NULL"
    s!"    {property.name}: {property.type}{mark}"
  let navigations := type.navigations.map fun navigation =>
    let mark := if navigation.isCollection then "*" else "1"
    s!"    -> {navigation.name}: {navigation.targetType} [{mark}]"
  s!"  {type.qualifiedName} key=({keys})" :: properties ++ navigations

/-- The lines of the outline. -/
def outlineLines (model : Model) : List String :=
  let versions := model.versions
  let envelope := if versions.envelope.isEmpty then "-" else versions.envelope
  let namespaces := joined ", " model.namespaces
  ["=== SCHEMA MODEL ===",
    s!"Namespace: {model.namespaceName}",
    s!"Version: {versions.protocol} (edmx {envelope})",
    s!"Schemas: {namespaces}",
    "",
    s!"=== ENTITY SETS ({model.sets.length}) ==="] ++
  model.sets.map setLine ++
  ["", s!"=== ENTITY TYPES ({model.types.length}) ==="] ++
  model.types.flatMap typeLines

/-- The outline of a model, each line ended. -/
def outline (model : Model) : String :=
  String.ofList (model.outlineLines.flatMap fun line => line.toList ++ ['\n'])

end Model

/-- A text with every line end spelled the same. -/
def unifyLineEnds : List Char → List Char
  | '\r' :: '\n' :: cs => '\n' :: unifyLineEnds cs
  | '\r' :: cs => '\n' :: unifyLineEnds cs
  | c :: cs => c :: unifyLineEnds cs
  | [] => []

/-- The outline of the document a file holds. -/
def outlineOf (content : String) : Except StructuralError String := do
  let model ← parse (some (String.ofList (unifyLineEnds content.toList)))
  return model.outline

end ODataExplorer.Csdl
