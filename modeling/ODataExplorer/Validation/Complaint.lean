import ODataExplorer.Json.Value

/-!
Complaints about values that do not fit.

A complaint says where in a value something does not fit and what kind of misfit it is. Reading a
value reports all complaints at once, in the order of the fields.
-/

namespace ODataExplorer.Validation

/-- A step from a value to one of its parts. -/
inductive Step where
  | field (name : String)
  | index (i : Nat)
  deriving DecidableEq, Repr

/-- What does not fit. -/
inductive Misfit where
  | missing
  | text
  | list
  | integer
  | integerText
  | integerSize
  | fraction
  | notFinite
  | truth
  | truthText
  | choice
  | object
  | attributes
  | rule
  | tooShort
  | brokenJson
  deriving DecidableEq, Repr

/-- The word for a misfit. -/
def Misfit.word : Misfit → String
  | .missing => "missing"
  | .text => "string_type"
  | .list => "list_type"
  | .integer => "int_type"
  | .integerText => "int_parsing"
  | .integerSize => "int_parsing_size"
  | .fraction => "int_from_float"
  | .notFinite => "finite_number"
  | .truth => "bool_type"
  | .truthText => "bool_parsing"
  | .choice => "literal_error"
  | .object => "model_type"
  | .attributes => "model_attributes_type"
  | .rule => "value_error"
  | .tooShort => "string_too_short"
  | .brokenJson => "json_invalid"

structure Complaint where
  path : List Step
  misfit : Misfit
  deriving DecidableEq, Repr

/-- A complaint about a part, as one about the whole. -/
def Complaint.under (step : Step) (complaint : Complaint) : Complaint :=
  { complaint with path := step :: complaint.path }

/-- A value that was read, or what is wrong with it. -/
abbrev Checked (α : Type) := Except (List Complaint) α

/-- A complaint about a value as a whole. -/
def refuse {α : Type} (misfit : Misfit) : Checked α := .error [⟨[], misfit⟩]

/-- Reports complaints about a part as ones about the whole. -/
def within {α : Type} (step : Step) : Checked α → Checked α
  | .ok a => .ok a
  | .error complaints => .error (complaints.map (·.under step))

/-- The complaints of a reading; none if it succeeded. -/
def complaints {α : Type} : Checked α → List Complaint
  | .ok _ => []
  | .error complaints => complaints

/-- A step as it stands in a location. -/
def Step.toJson : Step → Json
  | .field name => .string name
  | .index i => .int i

/-- A complaint with its location. -/
def Complaint.toJson (complaint : Complaint) : Json :=
  .object [
    ("loc", .array (complaint.path.map Step.toJson)),
    ("type", .string complaint.misfit.word)]

end ODataExplorer.Validation
