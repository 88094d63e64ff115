import ODataExplorer.Text.Digit
import ODataExplorer.Text.Utf8

/-!
Texts with halves of pairs.

UTF-16 writes the characters beyond four hexadecimal digits as pairs of units, and an escape may
write one half of a pair without the other. A half is a code point and no character: a text that
holds one has no bytes in UTF-8, and whoever has to write it fails. So such texts are kept apart
from texts of characters; `Wording` is either.
-/

namespace ODataExplorer.Text

/-- Half of a pair, without its other half: one of the code points that are no characters. -/
structure Half where
  index : Fin 0x800
  deriving DecidableEq, Repr

/-- The code point of a half. -/
def Half.code (half : Half) : Nat := 0xD800 + half.index

/-- What stands in one place of a text. -/
inductive CodePoint where
  | char (c : Char)
  | half (half : Half)
  deriving DecidableEq, Repr

/-- The code point of a unit of sixteen bits. -/
def CodePoint.ofUnit (unit : Nat) : CodePoint :=
  if h : 0xD800 ≤ unit ∧ unit < 0xE000 then .half ⟨⟨unit - 0xD800, by omega⟩⟩
  else .char (Char.ofNat unit)

/-- The character at a place, or the sign for what is none. -/
def CodePoint.shown : CodePoint → Char
  | .char c => c
  | .half _ => Utf8.replacement

/-- A text that holds a half: the characters before the first one, and all that comes after it. -/
structure Halved where
  before : List Char
  first : Half
  after : List CodePoint
  deriving DecidableEq, Repr

namespace Halved

/-- What stands in the places of the text. -/
def points (halved : Halved) : List CodePoint :=
  halved.before.map .char ++ .half halved.first :: halved.after

/-- The halves after the first one, up to the next character. -/
def leadingHalves : List CodePoint → List Half
  | .half half :: rest => half :: leadingHalves rest
  | _ => []

/-- The complaint of whoever has to write the text in UTF-8: the first halves that stand together,
and where. -/
def complaint (halved : Halved) : String :=
  let start := halved.before.length
  let more := (leadingHalves halved.after).length
  let what :=
    if more == 0 then
      let code := String.ofList ('\\' :: 'u' :: fixedHex 4 halved.first.code)
      s!"character '{code}' in position {start}"
    else s!"characters in position {start}-{start + more}"
  s!"'utf-8' codec can't encode {what}: surrogates not allowed"

end Halved

/-- A text as escapes may write it: of characters alone, or with halves among them. -/
inductive Wording where
  | text (s : String)
  | halved (broken : Halved)
  deriving DecidableEq, Repr

namespace Wording

/-- The text of code points; `before` are characters before them, last first. -/
def ofPoints (before : List Char) : List CodePoint → Wording
  | [] => .text (String.ofList before.reverse)
  | .char c :: rest => ofPoints (c :: before) rest
  | .half half :: rest => .halved ⟨before.reverse, half, rest⟩

/-- The text with a sign in the place of each half. -/
def shown : Wording → String
  | .text s => s
  | .halved broken => String.ofList (broken.points.map CodePoint.shown)

/-- Whether there is nothing in a text. -/
def isEmpty : Wording → Bool
  | .text s => s.isEmpty
  | .halved _ => false

end Wording

end ODataExplorer.Text
