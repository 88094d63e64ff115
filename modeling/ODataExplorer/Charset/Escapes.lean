import ODataExplorer.Charset.Front
import ODataExplorer.Text.Digit

/-!
Texts with escapes.

Each byte stands for the character of its number, and a backslash opens an escape. There are escapes
for control characters, and escapes of a fixed number of hexadecimal digits; one that has fewer, or
that is no character, is no code. The plain kind knows only the two that are for Unicode.
-/

namespace ODataExplorer.Charset

open Text

/-- An escape of hexadecimal digits, after its two first bytes: so many digits, and a character. -/
def hexEscape (count : Nat) (bytes : List UInt8) : Front Unit :=
  let digits := ((bytes.take count).map fun byte => hexValue? (Char.ofNat byte.toNat)).takeWhile
    (·.isSome)
  let length := 2 + digits.length
  if digits.length < count then .stray length
  else
    let n := (digits.filterMap id).foldl (fun n digit => n * 16 + digit) 0
    if n > 0x10FFFF then .stray length
    else .code length [if n.isValidChar then Char.ofNat n else Utf8.replacement] ()

/-- The characters of escapes of one letter. -/
def letterEscapes : List (Char × List Char) := [
  ('\n', []), ('\\', ['\\']), ('\x27', ['\x27']), ('"', ['"']), ('b', ['\x08']), ('t', ['\t']),
  ('n', ['\n']), ('r', ['\r']), ('f', ['\x0c']), ('v', ['\x0b']), ('a', ['\x07'])]

/-- Up to three octal digits at the front of a text. -/
def octalDigits (bytes : List UInt8) : List Nat :=
  ((bytes.take 3).map (·.toNat)).takeWhile fun n => '0'.toNat ≤ n && n ≤ '7'.toNat

/-- An escape that names a character, after its two first bytes. Names are not known; what is
replaced ends with the name. -/
def namedEscape (bytes : List UInt8) : Front Unit :=
  match bytes with
  | [] => .stray 2
  | byte :: rest =>
    if Char.ofNat byte.toNat != '\x7b' then .stray 2
    else
      let name := rest.takeWhile fun byte => Char.ofNat byte.toNat != '\x7d'
      let ended := name.length < rest.length
      .stray (3 + name.length + if ended && !name.isEmpty then 1 else 0)

/-- What stands at the front of a text with escapes of all kinds. -/
def escapedFront (_ : Unit) (byte : UInt8) (rest : List UInt8) : Front Unit :=
  if byte != '\\'.toUInt8 then .plain 1 (Char.ofNat byte.toNat)
  else
    match rest with
    | [] => .stray 1
    | second :: more =>
      let c := Char.ofNat second.toNat
      match letterEscapes.lookup c, octalDigits rest with
      | some chars, _ => .code 2 chars ()
      | none, [] =>
        if c == 'x' then hexEscape 2 more
        else if c == 'u' then hexEscape 4 more
        else if c == 'U' then hexEscape 8 more
        else if c == 'N' then namedEscape more
        else .code 2 ['\\', c] ()
      | none, digits =>
        .plain (1 + digits.length)
          (Char.ofNat (digits.foldl (fun n digit => n * 8 + (digit - '0'.toNat)) 0))

/-- What stands at the front of a text with escapes for Unicode only. -/
def plainlyEscapedFront (_ : Unit) (byte : UInt8) (rest : List UInt8) : Front Unit :=
  if byte != '\\'.toUInt8 then .plain 1 (Char.ofNat byte.toNat)
  else
    match rest with
    | [] => .plain 1 '\\'
    | second :: more =>
      let c := Char.ofNat second.toNat
      if c == 'u' then hexEscape 4 more
      else if c == 'U' then hexEscape 8 more
      else .code 2 ['\\', c] ()

end ODataExplorer.Charset
