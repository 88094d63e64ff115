import ODataExplorer.Text.Digit
import ODataExplorer.Xml.Fault
import ODataExplorer.Xml.Char

/-!
The XML declaration.

It holds, in this order, a version, an optional encoding and an optional statement whether the
document stands alone. The text of a document is known before it is read, so a declared encoding
need only be spelled well.
-/

namespace ODataExplorer.Xml

/-- Characters that may stand in a value of the declaration. -/
def isDeclarationChar (c : Char) : Bool :=
  ('a' ≤ c && c ≤ 'z') || ('A' ≤ c && c ≤ 'Z') || ('0' ≤ c && c ≤ '9') ||
  c == '.' || c == '-' || c == '_'

/-- Reads ` name = "value"`. -/
def scanDeclared (cs : List Char) : Option (String × List Char × List Char) :=
  if !cs.head?.any isSpace then none
  else
    let cs := skipSpace cs
    let isNamePart := fun c => c != '=' && !isSpace c && c.toNat < 0x80
    let name := cs.takeWhile isNamePart
    match skipSpace (cs.dropWhile isNamePart) with
    | '=' :: rest =>
      match skipSpace rest with
      | quote :: rest =>
        if name.isEmpty || (quote != '"' && quote != '\x27') then none
        else
          match scanUntil quote rest with
          | some (value, rest) =>
            if value.all isDeclarationChar then some (String.ofList name, value, rest) else none
          | none => none
      | [] => none
    | _ => none

def startsWithLetter (value : List Char) : Bool :=
  value.head?.any fun c => ('a' ≤ c && c ≤ 'z') || ('A' ≤ c && c ≤ 'Z')

/-- Reads the statement whether the document stands alone, or the end. -/
def standsAlone? (cs : List Char) : Option Bool :=
  if (skipSpace cs).isEmpty then some false
  else
    match scanDeclared cs with
    | some ("standalone", value, rest) =>
      if !(skipSpace rest).isEmpty then none
      else if value == "yes".toList then some true
      else if value == "no".toList then some false
      else none
    | _ => none

/-- Reads the content of the declaration: whether the document stands alone. -/
def readDeclaration (content : List Char) : Option Bool :=
  match scanDeclared content with
  | some ("version", _, rest) =>
    if (skipSpace rest).isEmpty then some false
    else
      match scanDeclared rest with
      | some ("encoding", value, rest) => if startsWithLetter value then standsAlone? rest else none
      | _ => standsAlone? rest
  | _ => none

end ODataExplorer.Xml
