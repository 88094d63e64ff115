import ODataExplorer.Json.Value
import ODataExplorer.Number.Shortest
import ODataExplorer.Text.Quoted
import ODataExplorer.Text.Split

/-!
Values as messages show them.
-/

namespace ODataExplorer.Log

open Text

mutual

/-- A value as messages show it; texts inside it are quoted. -/
def shown : Json → String
  | .null => "None"
  | .bool b => if b then "True" else "False"
  | .int n => toString n
  | .float x => x.text
  | .string s => quoted s
  | .halved broken => quoted (Wording.halved broken).shown
  | .array items => "[" ++ joined ", " (shownItems items) ++ "]"
  | .object members => "\x7b" ++ joined ", " (shownMembers members) ++ "\x7d"

def shownItems : List Json → List String
  | [] => []
  | item :: rest => shown item :: shownItems rest

def shownMembers : List (String × Json) → List String
  | [] => []
  | (name, value) :: rest => (quoted name ++ ": " ++ shown value) :: shownMembers rest

end

/-- A value as it stands in a message: a text is written as it is. -/
def plainly : Json → String
  | .string s => s
  | .halved broken => (Wording.halved broken).shown
  | value => shown value

/-- A value as messages show it, in ASCII: every other character is written by its code point. -/
def shownInAscii (value : Json) : List Char :=
  (shown value).toList.flatMap fun c => if c.toNat < 0x80 then [c] else escapedCode c

end ODataExplorer.Log
