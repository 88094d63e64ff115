import ODataExplorer.Number.Double
import ODataExplorer.Text.Halved

/-!
JSON values.

Integers are of any size and stay apart from numbers in floating point: which of the two a number
is, its spelling says. Texts of characters stay apart from texts with halves of pairs in them. An
object is a list of members in the order of first occurrence of their names, each name once; names
are texts of characters.
-/

namespace ODataExplorer

/-- A JSON value. -/
inductive Json where
  | null
  | bool (value : Bool)
  | int (value : Int)
  | float (value : Double)
  | string (value : String)
  | halved (value : Text.Halved)
  | array (items : List Json)
  | object (members : List (String × Json))
  deriving Inhabited, Repr

namespace Json

/-- The members of an object; nothing for any other value. -/
def members? : Json → Option (List (String × Json))
  | .object members => some members
  | _ => none

/-- The member of an object by its name. -/
def member? (name : String) : Json → Option Json
  | .object members => members.lookup name
  | _ => none

/-- Adds a member. A name that is there already keeps its place and takes the new value. -/
def setMember (name : String) (value : Json) : List (String × Json) → List (String × Json)
  | [] => [(name, value)]
  | (other, old) :: rest =>
    if other == name then (other, value) :: rest else (other, old) :: setMember name value rest

/-- An object of a list of members; of equal names the last one counts. -/
def ofMembers (members : List (String × Json)) : Json :=
  .object (members.foldl (fun done (name, value) => setMember name value done) [])

/-- A text as escapes may write it. -/
def ofWording : Text.Wording → Json
  | .text text => .string text
  | .halved broken => .halved broken

/-- A text, or null for an absent one. -/
def ofText? : Option String → Json
  | some text => .string text
  | none => .null

/-- A list of texts. -/
def ofTexts (texts : List String) : Json :=
  .array (texts.map .string)

/-- An integer, or null for an absent one. -/
def ofInt? : Option Int → Json
  | some n => .int n
  | none => .null

mutual

/-- The value with every number that is not finite replaced by null. -/
def finiteOnly : Json → Json
  | .float x => if x.isFinite then .float x else .null
  | .array items => .array (finiteItems items)
  | .object members => .object (finiteMembers members)
  | value => value

def finiteItems : List Json → List Json
  | [] => []
  | item :: rest => item.finiteOnly :: finiteItems rest

def finiteMembers : List (String × Json) → List (String × Json)
  | [] => []
  | (name, value) :: rest => (name, value.finiteOnly) :: finiteMembers rest

end

end Json

end ODataExplorer
