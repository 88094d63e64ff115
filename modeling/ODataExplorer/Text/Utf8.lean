/-!
UTF-8.

A character is one to four bytes. Reading is a machine that takes a byte at a time: a lead byte
says how many bytes follow and which range the next one must lie in, the later ones lie between
0x80 and 0xBF. A sequence is invalid as soon as a byte leaves its range; the bytes read so far are
then one invalid piece and reading starts again at the offending byte.
-/

namespace ODataExplorer.Text.Utf8

/-- The bytes of a character. -/
def encodeChar (c : Char) : List UInt8 :=
  let n := c.toNat
  if n < 0x80 then [n.toUInt8]
  else if n < 0x800 then [(0xC0 + n / 0x40).toUInt8, (0x80 + n % 0x40).toUInt8]
  else if n < 0x10000 then
    [(0xE0 + n / 0x1000).toUInt8, (0x80 + n / 0x40 % 0x40).toUInt8, (0x80 + n % 0x40).toUInt8]
  else
    [(0xF0 + n / 0x40000).toUInt8, (0x80 + n / 0x1000 % 0x40).toUInt8,
      (0x80 + n / 0x40 % 0x40).toUInt8, (0x80 + n % 0x40).toUInt8]

/-- The bytes of a text. -/
def encode (cs : List Char) : List UInt8 :=
  cs.flatMap encodeChar

/-- What a reader holds inside a character: the value so far, how many bytes are to come, and the
range of the next one. -/
structure Pending where
  value : Nat
  missing : Nat
  low : Nat
  high : Nat

/-- What a byte says where a character may start. -/
inductive Lead where
  | whole (c : Char)
  | opens (pending : Pending)
  | invalid

/-- Reads the first byte of a character. Overlong forms, surrogates and numbers beyond U+10FFFF
are excluded by the range of the second byte. -/
def lead (byte : UInt8) : Lead :=
  let b := byte.toNat
  if b < 0x80 then .whole (Char.ofNat b)
  else if b < 0xC2 then .invalid
  else if b < 0xE0 then .opens ⟨b - 0xC0, 1, 0x80, 0xBF⟩
  else if b == 0xE0 then .opens ⟨0, 2, 0xA0, 0xBF⟩
  else if b == 0xED then .opens ⟨0xD, 2, 0x80, 0x9F⟩
  else if b < 0xF0 then .opens ⟨b - 0xE0, 2, 0x80, 0xBF⟩
  else if b == 0xF0 then .opens ⟨0, 3, 0x90, 0xBF⟩
  else if b < 0xF4 then .opens ⟨b - 0xF0, 3, 0x80, 0xBF⟩
  else if b == 0xF4 then .opens ⟨4, 3, 0x80, 0x8F⟩
  else .invalid

/-- A piece of a byte string: a character, or the longest invalid piece. -/
abbrev Piece := Option Char

/-- Reads on, with or without a character begun. -/
def readPieces : Option Pending → List UInt8 → List Piece
  | none, [] => []
  | some _, [] => [none]
  | none, byte :: rest =>
    match lead byte with
    | .whole c => some c :: readPieces none rest
    | .opens pending => readPieces (some pending) rest
    | .invalid => none :: readPieces none rest
  | some pending, byte :: rest =>
    let b := byte.toNat
    if pending.low ≤ b && b ≤ pending.high then
      let value := pending.value * 0x40 + (b - 0x80)
      match pending.missing with
      | 0 | 1 => some (Char.ofNat value) :: readPieces none rest
      | missing + 1 => readPieces (some ⟨value, missing, 0x80, 0xBF⟩) rest
    else
      none ::
        match lead byte with
        | .whole c => some c :: readPieces none rest
        | .opens fresh => readPieces (some fresh) rest
        | .invalid => none :: readPieces none rest

/-- The text of a byte string, if every byte belongs to a character. -/
def decode? (bytes : List UInt8) : Option (List Char) :=
  (readPieces none bytes).mapM id

/-- The sign that stands for an invalid piece. -/
def replacement : Char := '\uFFFD'

/-- The text of a byte string, each invalid piece replaced by one sign. -/
def decodeLossy (bytes : List UInt8) : List Char :=
  (readPieces none bytes).map (·.getD replacement)

end ODataExplorer.Text.Utf8
