import ODataExplorer.Text.Utf8

/-!
Tables of characters with codes of two bytes.

A table is written stretch by stretch. What is written later stands over what was there before; a
replacement sign in a stretch leaves the code as it was.
-/

namespace ODataExplorer.Charset

open Text

/-- The codes of a stretch: the first byte of all of them, the second byte of the first one, and
their characters. -/
structure Stretch where
  lead : Nat
  trail : Nat
  chars : String

/-- The character of a code of a stretch. -/
def Stretch.char? (stretch : Stretch) (lead trail : Nat) : Option Char :=
  if lead == stretch.lead && stretch.trail ≤ trail then
    stretch.chars.toList[trail - stretch.trail]?.filter (· != Utf8.replacement)
  else none

/-- Codes of two characters each: letters, and the mark behind all of them. -/
structure MarkedStretch where
  letters : Stretch
  mark : Char

/-- The characters of a code of one of some stretches with marks. -/
def markedChars? (stretches : List MarkedStretch) (lead trail : Nat) : Option (List Char) :=
  stretches.findSome? fun stretch =>
    (stretch.letters.char? lead trail).map ([·, stretch.mark])

/-- The numbers from one to another. -/
def between (low high : Nat) : List Nat := (List.range (high + 1 - low)).map (low + ·)

/-- The codes of some first and some second bytes in order. -/
def codesOf (leads trails : List Nat) : List (Nat × Nat) :=
  leads.flatMap fun lead => trails.map (lead, ·)

/-- The characters of codes of two bytes: 256 for each first byte, from the byte 0x80 on. A code of
nothing has the replacement sign. -/
structure PairTable where
  chars : Array Char

namespace PairTable

/-- The table of no codes. -/
def empty : PairTable := ⟨.replicate (0x80 * 0x100) Utf8.replacement⟩

/-- Where the character of a code stands. -/
def place (lead trail : Nat) : Nat := (lead - 0x80) * 0x100 + trail

/-- The character of a code. -/
def char? (table : PairTable) (lead trail : Nat) : Option Char :=
  if lead < 0x80 || trail ≥ 0x100 then none
  else
    let c := table.chars.getD (place lead trail) Utf8.replacement
    if c == Utf8.replacement then none else some c

/-- Gives a code a character. -/
def put (table : PairTable) (code : Nat × Nat) (c : Char) : PairTable :=
  if c == Utf8.replacement then table
  else ⟨table.chars.setIfInBounds (place code.1 code.2) c⟩

/-- Gives codes their characters, as far as both reach. -/
def fill (table : PairTable) (codes : List (Nat × Nat)) (chars : List Char) : PairTable :=
  (codes.zip chars).foldl (fun table (code, c) => table.put code c) table

/-- Writes stretches. -/
def write (table : PairTable) (stretches : List Stretch) : PairTable :=
  stretches.foldl
    (fun table stretch =>
      let chars := stretch.chars.toList
      table.fill ((List.range chars.length).map fun k => (stretch.lead, stretch.trail + k)) chars)
    table

/-- The characters from one code point to another that have no code, in order. -/
def charsWithout (table : PairTable) (low high : Nat) : List Char :=
  let coded := table.chars.foldl (fun (coded : Array Bool) c => coded.setIfInBounds c.toNat true)
    (.replicate 0x10000 false)
  ((between low high).filter fun n => n.isValidChar && !coded.getD n false).map Char.ofNat

end PairTable

end ODataExplorer.Charset
