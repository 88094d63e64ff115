import ODataExplorer.Text.Digit
import ODataExplorer.Text.Split
import ODataExplorer.Text.Utf8

/-!
Form encoding.

Letters, digits and four signs stand for themselves, a space is a plus sign, and everything else is
written byte by byte in UTF-8 as `%XX`. Decoding is more tolerant: a per cent sign without two
hexadecimal digits stands for itself, and a text whose bytes are not UTF-8 is left as it is.
-/

namespace ODataExplorer.Url.Form

open Text

/-- Characters that encoding leaves alone. -/
def isUnreserved (c : Char) : Bool :=
  ('a' ≤ c && c ≤ 'z') || ('A' ≤ c && c ≤ 'Z') || ('0' ≤ c && c ≤ '9') ||
  c == '_' || c == '.' || c == '-' || c == '~'

/-- A byte as `%XX`. -/
def encodeByte (byte : UInt8) : List Char :=
  ['%', upperHexDigit (byte.toNat / 16), upperHexDigit (byte.toNat % 16)]

/-- One character of a field. -/
def encodeChar (c : Char) : List Char :=
  if isUnreserved c then [c]
  else if c == ' ' then ['+']
  else (Utf8.encodeChar c).flatMap encodeByte

/-- The name or the value of a field. -/
def encode (cs : List Char) : List Char := cs.flatMap encodeChar

/-- A field. -/
def encodeField (field : String × String) : List Char :=
  encode field.1.toList ++ '=' :: encode field.2.toList

/-- Fields with ampersands between them. -/
def encodeFields (fields : List (String × String)) : List Char :=
  joinWith ['&'] (fields.map encodeField)

/-- The bytes that an encoded text stands for. -/
def decodedBytes : List Char → List UInt8
  | '%' :: a :: b :: cs =>
    match hexValue? a, hexValue? b with
    | some high, some low => (16 * high + low).toUInt8 :: decodedBytes cs
    | _, _ => '%'.toNat.toUInt8 :: decodedBytes (a :: b :: cs)
  | '+' :: cs => ' '.toNat.toUInt8 :: decodedBytes cs
  | c :: cs => Utf8.encodeChar c ++ decodedBytes cs
  | [] => []

/-- The text that an encoded text stands for, if its bytes are UTF-8. -/
def decode? (cs : List Char) : Option (List Char) :=
  Utf8.decode? (decodedBytes cs)

/-- The text that an encoded text stands for, or the text itself. -/
def decode (cs : List Char) : List Char :=
  (decode? cs).getD cs

end ODataExplorer.Url.Form
