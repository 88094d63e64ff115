import ODataExplorer.Domain.Punycode
import ODataExplorer.Text.Case
import ODataExplorer.Text.Utf8

/-!
Labels as texts.

The labels of domain names have a writing in ASCII that can be taken for a character set. Behind the
last hyphen stand the insertions, in ASCII and nothing else; a byte there that is not refuses the
text. An insertion that makes no sense ends the text, and one beyond Unicode is a question mark.
-/

namespace ODataExplorer.Charset

open Text Domain

/-- Reads insertions into a text as long as they make sense, as `Punycode.readInsertions` reads
those of a label. -/
def insertLeniently (bias code index : Nat) (first : Bool) (text : List Char) :
    Nat → List Char → List Char
  | 0, _ | _, [] => text
  | fuel + 1, cs =>
    match Punycode.readNumber bias 0 1 0 cs with
    | none => text
    | some (steps, rest) =>
      let reached := index + steps
      let places := text.length + 1
      let code := code + reached / places
      let code := if code > 0x10FFFF then '?'.toNat else code
      let c := if code.isValidChar then Char.ofNat code else Utf8.replacement
      let index := reached % places
      let text := text.take index ++ c :: text.drop index
      insertLeniently (Punycode.adapt steps first text.length) code (index + 1) false text fuel rest

/-- The bytes before the last hyphen, and those after it. -/
def cutInsertions (bytes : List UInt8) : List UInt8 × List UInt8 :=
  let insertions := (bytes.reverse.takeWhile (· != '-'.toUInt8)).reverse
  (bytes.take (bytes.length - insertions.length - 1), insertions)

/-- The characters of bytes that are all in ASCII, or the first byte that is not and its place. -/
def asciiChars (bytes : List UInt8) : Except (UInt8 × Nat) (List Char) :=
  match bytes.findIdx? (·.toNat ≥ 0x80) with
  | none => .ok (bytes.map fun byte => Char.ofNat byte.toNat)
  | some place => .error (bytes.getD place 0, place)

/-- Text with insertions. -/
def decodeInsertions (bytes : List UInt8) : Except (UInt8 × Nat) (List Char) := do
  let (front, insertions) := cutInsertions bytes
  let insertions ← asciiChars insertions
  let text := front.map fun byte =>
    if byte.toNat < 0x80 then Char.ofNat byte.toNat else Utf8.replacement
  return insertLeniently Punycode.firstBias 0x80 0 true text insertions.length
    (insertions.map asciiLower)

/-- Text with insertions, if all of it makes sense. -/
def readInsertions? (bytes : List UInt8) : Option (List Char) := do
  let (front, insertions) := cutInsertions bytes
  let front ← (asciiChars front).toOption
  let insertions ← (asciiChars insertions).toOption
  Punycode.readInsertions Punycode.firstBias 0x80 0 true front insertions.length
    (insertions.map asciiLower)

end ODataExplorer.Charset
