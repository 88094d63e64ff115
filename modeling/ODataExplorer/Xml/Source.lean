import ODataExplorer.Text.Utf8
import ODataExplorer.Xml.Fault

/-!
The characters of a document.

A document is the bytes of its text. They are in UTF-8, except that a document whose first character
has a zero byte beside it is in units of two bytes: a document starts with an ASCII character, and
only such units put a zero there. Units are then taken as they are, in the order of bytes that the
zero shows, and may end in half of one.
-/

namespace ODataExplorer.Xml

open Text

/-- The characters of a document. -/
structure Source where
  chars : List Char
  /-- Half of a unit follows the characters. -/
  torn : Bool := false
  deriving DecidableEq, Repr

/-- A sign that stands for a unit that is no character; no document may hold it. -/
def noChar : Char := '\uFFFF'

/-- The character of a unit that is not part of a pair. -/
def unitChar (unit : Nat) : Char :=
  if unit.isValidChar then Char.ofNat unit else noChar

/-- The character of two units, of which the first says that another one follows. Of the second one
its last ten bits count, whatever the others are. -/
def pairChar (first second : Nat) : Char :=
  Char.ofNat (0x10000 + first % 0x400 * 0x400 + second % 0x400)

/-- Whether a unit is the first one of a pair. -/
def opensPair (unit : Nat) : Bool := 0xD800 ≤ unit && unit < 0xDC00

/-- The characters of units of two bytes, and whether half of a unit is left. -/
def readUnits (unit : UInt8 → UInt8 → Nat) : List UInt8 → List Char × Bool
  | a :: b :: c :: d :: rest =>
    if opensPair (unit a b) then
      addTo (pairChar (unit a b) (unit c d)) (readUnits unit rest)
    else addTo (unitChar (unit a b)) (readUnits unit (c :: d :: rest))
  | a :: b :: rest => ([unitChar (unit a b)], !rest.isEmpty)
  | [_] => ([], true)
  | [] => ([], false)
where
  addTo (c : Char) : List Char × Bool → List Char × Bool
    | (cs, torn) => (c :: cs, torn)

/-- The order of bytes in the units of a document; `none` for a document in UTF-8. -/
def unitOrder? : List UInt8 → Option (UInt8 → UInt8 → Nat)
  | 0 :: _ :: _ => some fun a b => a.toNat * 0x100 + b.toNat
  | _ :: 0 :: _ => some fun a b => b.toNat * 0x100 + a.toNat
  | _ => none

/-- The characters of a text. A byte order mark before them is no part of the document. -/
def Source.ofText (text : List Char) : Source :=
  let bytes := Utf8.encode (text.take 2)
  match unitOrder? bytes with
  | some unit =>
    let (chars, torn) := readUnits unit (Utf8.encode text)
    { chars, torn }
  | none => { chars := if text.head? == some '\uFEFF' then text.drop 1 else text }

/-- Refuses a document after whose end half of a unit is left. -/
def Source.checkEnd (source : Source) : Except Fault Unit :=
  if source.torn then .error .notWellFormed else .ok ()

end ODataExplorer.Xml
