import ODataExplorer.Log.Logged
import ODataExplorer.Number.Reading
import ODataExplorer.Number.Shortest
import ODataExplorer.Text.Split

/-!
Variables of the environment.

Every variable is read without the blanks around its value, such as the line ends that an edited
file leaves behind. A value that does not fit is reported, and the standard value stands in for it.
-/

namespace ODataExplorer.Settings

open Text Log

/-- The variables of an environment with their values. -/
abbrev Environment := List (String × String)

/-- The complaint about a value that does not fit; `standard` is the text of the value that stands
in for it. -/
def unfit (key complaint value standard : String) : Entry :=
  .warning
    s!"Environment variable {key} {complaint}: {quoted value}. Using default: {standard}"

namespace Environment

/-- A value without the blanks around it, which are reported. -/
def trimmed (key raw : String) : Logged String :=
  let clean := trim raw
  if raw == clean then pure clean
  else
    ⟨clean, [.warning (s!"Environment variable {key} had trailing whitespace/line endings: " ++
      s!"raw={quoted raw}, cleaned={quoted clean}")]⟩

/-- The text of a variable. A standard text is trimmed like any other. -/
def text? (key : String) (standard? : Option String) (env : Environment) :
    Logged (Option String) :=
  match (env.lookup key).or standard? with
  | none => pure none
  | some raw => do
    let clean ← trimmed key raw
    return some clean

/-- The text of a variable, or a standard text. -/
def text (key standard : String) (env : Environment) : Logged String :=
  trimmed key ((env.lookup key).getD standard)

/-- A variable that is read, unless it is absent or does not fit. -/
def readAs? {α : Type} (read : String → Option α) (complaint : String) (key standard : String)
    (env : Environment) : Logged (Option α) := do
  match ← text? key none env with
  | none => return none
  | some value =>
    match read value with
    | some a => return some a
    | none => ⟨none, [unfit key complaint value standard]⟩

/-- The words for a truth value, in lower case. -/
def truthWords : List (String × Bool) := [
  ("true", true), ("1", true), ("yes", true), ("on", true),
  ("false", false), ("0", false), ("no", false), ("off", false), ("", false)]

/-- The truth value of a variable; `standard` is the text of what stands in for it. -/
def truth? (key standard : String) (env : Environment) : Logged (Option Bool) :=
  readAs? (fun value => truthWords.lookup (lower value)) "has unexpected boolean value" key standard
    env

/-- The integer of a variable; `standard` is the text of what stands in for it. -/
def integer? (key standard : String) (env : Environment) : Logged (Option Int) :=
  readAs? (fun value => (Number.readInteger value).toOption) "is not a valid integer" key standard
    env

/-- The number of a variable; `standard` is the text of what stands in for it. -/
def number? (key standard : String) (env : Environment) : Logged (Option Double) :=
  readAs? Number.readDouble? "is not a valid number" key standard env

/-- The word for a truth value in a message. -/
def truthText (b : Bool) : String := if b then "True" else "False"

/-- The truth value of a variable, or a standard one. -/
def truth (key : String) (standard : Bool) (env : Environment) : Logged Bool := do
  return (← truth? key (truthText standard) env).getD standard

/-- The integer of a variable, or a standard one. -/
def integer (key : String) (standard : Int) (env : Environment) : Logged Int := do
  return (← integer? key (toString standard) env).getD standard

/-- The number of a variable, or a standard one. -/
def number (key : String) (standard : Double) (env : Environment) : Logged Double := do
  return (← number? key standard.text env).getD standard

/-- The pieces of a text between separators; without a separator, runs of blanks separate them. -/
def pieces (separator? : Option String) (value : String) : List (List Char) :=
  match separator? with
  | some separator => wordPieces separator.toList value.toList
  | none => Text.pieces ' ' (value.toList.map fun c => if isBlank c then ' ' else c)

/-- The items of a text, without the blanks around them and without empty ones. -/
def items (separator? : Option String) (value : String) : List String :=
  let pieces := (pieces separator? value).map (trimWhile isBlank)
  (pieces.filter (!·.isEmpty)).map String.ofList

/-- A list needs a separator: there are no pieces between occurrences of nothing. -/
inductive ListFault where
  | emptySeparator
  deriving DecidableEq, Repr

def ListFault.message : ListFault → String
  | .emptySeparator => "empty separator"

/-- The items of a variable, or standard ones if it has none. -/
def list (key : String) (separator? : Option String) (standard : List String)
    (env : Environment) : Logged (Except ListFault (List String)) := do
  let value := (← text? key none env).getD ""
  if value.isEmpty then return .ok standard
  else if separator? == some "" then return .error .emptySeparator
  else
    let items := items separator? value
    return .ok (if items.isEmpty then standard else items)

end Environment

end ODataExplorer.Settings
