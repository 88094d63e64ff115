import ODataExplorer.Text.Utf8

/-!
Unicode in units of two and of four bytes.

A unit has its high byte first or last. A mark at the beginning of a text may say which; without one
the low byte comes first.
-/

namespace ODataExplorer.Charset

open Text

/-- A unit of two bytes. -/
def unit16 (bigEndian : Bool) (a b : UInt8) : Nat :=
  if bigEndian then a.toNat * 256 + b.toNat else b.toNat * 256 + a.toNat

/-- Text of units of two bytes. -/
def decodeUnits16 (bigEndian : Bool) : List UInt8 → List Char
  | [] => []
  | [_] => [Utf8.replacement]
  | a :: b :: c :: d :: rest =>
    let first := unit16 bigEndian a b
    let second := unit16 bigEndian c d
    if 0xD800 ≤ first && first < 0xDC00 && 0xDC00 ≤ second && second < 0xE000 then
      Char.ofNat (0x10000 + (first - 0xD800) * 0x400 + (second - 0xDC00)) ::
        decodeUnits16 bigEndian rest
    else
      (if 0xD800 ≤ first && first < 0xE000 then Utf8.replacement else Char.ofNat first) ::
        decodeUnits16 bigEndian (c :: d :: rest)
  | a :: b :: rest =>
    let unit := unit16 bigEndian a b
    if 0xD800 ≤ unit && unit < 0xDC00 then [Utf8.replacement]
    else
      (if 0xDC00 ≤ unit && unit < 0xE000 then Utf8.replacement else Char.ofNat unit) ::
        decodeUnits16 bigEndian rest

/-- Text of units of four bytes. -/
def decodeUnits32 (bigEndian : Bool) : List UInt8 → List Char
  | a :: b :: c :: d :: rest =>
    let code :=
      if bigEndian then unit16 true a b * 0x10000 + unit16 true c d
      else unit16 false c d * 0x10000 + unit16 false a b
    (if code.isValidChar then Char.ofNat code else Utf8.replacement) :: decodeUnits32 bigEndian rest
  | [] => []
  | _ => [Utf8.replacement]

/-- Text of units of two bytes after a mark, if there is one. -/
def decodeMarked16 : List UInt8 → List Char
  | 0xFE :: 0xFF :: rest => decodeUnits16 true rest
  | 0xFF :: 0xFE :: rest => decodeUnits16 false rest
  | bytes => decodeUnits16 false bytes

/-- Text of units of four bytes after a mark, if there is one. -/
def decodeMarked32 : List UInt8 → List Char
  | 0 :: 0 :: 0xFE :: 0xFF :: rest => decodeUnits32 true rest
  | 0xFF :: 0xFE :: 0 :: 0 :: rest => decodeUnits32 false rest
  | bytes => decodeUnits32 false bytes

end ODataExplorer.Charset
