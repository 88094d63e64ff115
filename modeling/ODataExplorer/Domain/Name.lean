import ODataExplorer.Domain.Label
import ODataExplorer.Text.Split

/-!
Domain names.

A name is labels with full stops between them, of which there are four kinds, and may have one at
its end. It can be written with the texts of its labels and with their ASCII forms.
-/

namespace ODataExplorer.Domain

open Text

/-- The characters that separate labels. -/
def fullStops : List Char := ['.', '。', '．', '｡']

/-- The labels of a name, and whether a full stop ends it. -/
def labelsOf (name : List Char) : Except Fault (List (List Char) × Bool) :=
  let labels := pieces '.' (name.map fun c => if fullStops.contains c then '.' else c)
  match labels.getLast? with
  | some [] => if labels.length == 1 then .error .emptyDomain else .ok (labels.dropLast, true)
  | _ => .ok (labels, false)

/-- The name of labels. -/
def nameOf (labels : List (List Char)) (closed : Bool) : List Char :=
  joinWith ['.'] labels ++ if closed then ['.'] else []

/-- The longest ASCII form of a name, a full stop at its end left out. -/
def longestName : Nat := 253

/-- The ASCII form of a name in lower case. -/
def toAscii (name : List Char) : Except Fault (List Char) := do
  let (labels, closed) ← labelsOf name
  let forms ← labels.mapM asciiForm
  let form := nameOf forms closed
  if form.length > longestName + (if closed then 1 else 0) then throw .tooLongDomain
  return form

/-- A name in ASCII and lower case with the texts of its labels. -/
def toText (name : List Char) : Except Fault (List Char) := do
  let (labels, closed) ← labelsOf name
  let texts ← labels.mapM plainText
  return nameOf texts closed

end ODataExplorer.Domain
