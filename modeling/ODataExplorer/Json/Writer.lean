import ODataExplorer.Json.Value
import ODataExplorer.Number.Shortest
import ODataExplorer.Text.Digit

/-!
Writing JSON in ASCII, without spaces.

Characters outside ASCII are written by their UTF-16 units, and so are halves of pairs.
-/

namespace ODataExplorer.Json

open Text

/-- A UTF-16 unit as an escape. -/
def unitEscape (unit : Nat) : List Char := '\\' :: 'u' :: fixedHex 4 unit

/-- One character inside a string. -/
def escapeChar (c : Char) : List Char :=
  let n := c.toNat
  if c == '"' || c == '\\' then ['\\', c]
  else if c == '\n' then ['\\', 'n']
  else if c == '\r' then ['\\', 'r']
  else if c == '\t' then ['\\', 't']
  else if 0x20 ≤ n && n < 0x7F then [c]
  else if n < 0x10000 then unitEscape n
  else
    unitEscape (0xD800 + (n - 0x10000) / 0x400) ++ unitEscape (0xDC00 + (n - 0x10000) % 0x400)

/-- What stands in one place of a string. -/
def escapePoint : CodePoint → List Char
  | .char c => escapeChar c
  | .half half => unitEscape half.code

/-- A string between quotes. -/
def renderString (s : String) : String :=
  String.ofList ('"' :: s.toList.flatMap escapeChar ++ ['"'])

/-- A string with halves of pairs in it, between quotes. -/
def renderHalved (broken : Halved) : String :=
  String.ofList ('"' :: broken.points.flatMap escapePoint ++ ['"'])

/-- A number in floating point; the three that JSON lacks are written as words. -/
def renderDouble : Double → String
  | .nan => "NaN"
  | .infinite negative => if negative then "-Infinity" else "Infinity"
  | x => x.text

mutual

/-- The text of a value. -/
def render : Json → String
  | .null => "null"
  | .bool value => if value then "true" else "false"
  | .int n => toString n
  | .float x => renderDouble x
  | .string s => renderString s
  | .halved broken => renderHalved broken
  | .array items => "[" ++ ",".intercalate (renderItems items) ++ "]"
  | .object members => "\x7b" ++ ",".intercalate (renderMembers members) ++ "\x7d"

def renderItems : List Json → List String
  | [] => []
  | item :: rest => item.render :: renderItems rest

def renderMembers : List (String × Json) → List String
  | [] => []
  | (name, value) :: rest => (renderString name ++ ":" ++ value.render) :: renderMembers rest

end

end ODataExplorer.Json
