import ODataExplorer.Charset.Units
import ODataExplorer.Number.Double

/-!
Unicode in seven bits.

Most of ASCII stands for itself. A plus opens a run of 64 digits, six bits each, that make units of
two bytes; the run ends before the first byte that is none of them, and a hyphen there only ends it.
A plus alone is written with a hyphen after it.
-/

namespace ODataExplorer.Charset

open Text

/-- The six bits of a digit. -/
def sixBits? (byte : UInt8) : Option Nat :=
  let c := Char.ofNat byte.toNat
  if 'A' ≤ c && c ≤ 'Z' then some (c.toNat - 'A'.toNat)
  else if 'a' ≤ c && c ≤ 'z' then some (c.toNat - 'a'.toNat + 26)
  else if '0' ≤ c && c ≤ '9' then some (c.toNat - '0'.toNat + 52)
  else if c == '+' then some 62
  else if c == '/' then some 63
  else none

/-- An open run: the bits that are no unit yet, how many they are, and the first half of a pair of
units that waits for the second. -/
structure OpenRun where
  bits : Nat := 0
  count : Nat := 0
  half? : Option Nat := none

namespace OpenRun

/-- Whether the bits that are left are no padding: a digit too many, or not all zero. -/
def isBroken (run : OpenRun) : Bool := run.count ≥ 6 || run.bits != 0

/-- What a half without its other half leaves before a byte. -/
def loneHalf (run : OpenRun) (byte : UInt8) : List Char :=
  if run.half?.isSome && byte.toNat < 0x80 then [Utf8.replacement] else []

/-- The next unit. -/
def unit (run : OpenRun) (unit : Nat) : List Char × OpenRun :=
  let isLow := 0xDC00 ≤ unit && unit < 0xE000
  match run.half? with
  | some half =>
    if isLow then
      ([Char.ofNat (0x10000 + (half - 0xD800) * 0x400 + (unit - 0xDC00))], { run with half? := none })
    else
      let (chars, run) := alone { run with half? := none } unit
      (Utf8.replacement :: chars, run)
  | none => alone run unit
where
  alone (run : OpenRun) (unit : Nat) : List Char × OpenRun :=
    if 0xD800 ≤ unit && unit < 0xDC00 then ([], { run with half? := some unit })
    else if unit.isValidChar then ([Char.ofNat unit], run)
    else ([Utf8.replacement], run)

/-- The next digit. -/
def digit (run : OpenRun) (six : Nat) : List Char × OpenRun :=
  let bits := run.bits * 64 + six
  let count := run.count + 6
  if count < 16 then ([], { run with bits, count })
  else
    let left := Double.twoTo (count - 16)
    { run with bits := bits % left, count := count - 16 }.unit (bits / left)

end OpenRun

/-- Where a text stands: outside runs, after a plus, or in a run. -/
inductive Position where
  | outside
  | afterPlus
  | inside (run : OpenRun)

/-- The character of a byte outside runs. -/
def sevenBitChar (byte : UInt8) : Char :=
  if byte.toNat < 0x80 then Char.ofNat byte.toNat else Utf8.replacement

/-- Text in seven bits. -/
def decodeUtf7 : Position → List UInt8 → List Char
  | .outside, [] | .afterPlus, [] => []
  | .inside run, [] => if run.half?.isSome || run.isBroken then [Utf8.replacement] else []
  | .outside, byte :: rest =>
    if byte == '+'.toUInt8 then decodeUtf7 .afterPlus rest
    else sevenBitChar byte :: decodeUtf7 .outside rest
  | .afterPlus, byte :: rest =>
    if byte == '-'.toUInt8 then '+' :: decodeUtf7 .outside rest
    else
      match sixBits? byte with
      | some six =>
        let (chars, run) := OpenRun.digit {} six
        chars ++ decodeUtf7 (.inside run) rest
      | none => Utf8.replacement :: decodeUtf7 .outside rest
  | .inside run, byte :: rest =>
    match sixBits? byte with
    | some six =>
      let (chars, run) := run.digit six
      chars ++ decodeUtf7 (.inside run) rest
    | none =>
      if run.isBroken then Utf8.replacement :: decodeUtf7 .outside rest
      else
        run.loneHalf byte ++
          (if byte == '-'.toUInt8 then [] else [sevenBitChar byte]) ++ decodeUtf7 .outside rest

end ODataExplorer.Charset
