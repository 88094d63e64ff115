import ODataExplorer.Deflate.Inflate

/-!
Compressed bytes with a header and a check.

Blocks may come bare, or in one of two wrappings. Each has a header before the blocks and a check
after them; the checks are sums of the bytes that the blocks make.
-/

namespace ODataExplorer.Deflate

/-! ## Sums -/

/-- The modulus of the simple sum. -/
def sumModulus : Nat := 65521

/-- The simple sum of bytes: their sum, and the sum of all sums on the way. -/
def simpleSum (bytes : Array UInt8) : Nat :=
  let (low, high) := bytes.foldl
    (fun (low, high) byte =>
      let low := (low + byte.toNat) % sumModulus
      (low, (high + low) % sumModulus))
    (1, 0)
  high * 0x10000 + low

/-- One bit of a cyclic sum. -/
def cyclicStep (sum : UInt32) : UInt32 :=
  if sum &&& 1 == 1 then (sum >>> 1) ^^^ 0xEDB88320 else sum >>> 1

/-- The cyclic sum of bytes. -/
def cyclicSum (bytes : Array UInt8) : Nat :=
  (bytes.foldl (fun sum byte => Nat.repeat cyclicStep 8 (sum ^^^ byte.toUInt32)) 0xFFFFFFFF
    ^^^ 0xFFFFFFFF).toNat

/-! ## Wrappings -/

/-- How blocks are wrapped. -/
inductive Wrapping where
  | bare
  | short
  | long
  deriving DecidableEq, Repr

/-- A number of some bytes, the highest first. -/
def nextBigEndian : Nat → Reading Nat
  | 0 => return 0
  | n + 1 => do
    let byte ← nextBits 8
    let low ← nextBigEndian n
    return byte * Nat.pow 0x100 n + low

/-- Reads the short header: two bytes that are a multiple of 31 together. -/
def readShortHeader : Reading Unit := do
  let method ← nextBits 4
  let window ← nextBits 4
  let flags ← nextBits 8
  if ((window * 16 + method) * 0x100 + flags) % 31 != 0 then refuse .header
  else if method != 8 then refuse .method
  else if window > 7 then refuse .window
  else if flags.testBit 5 then
    let _ ← nextBits 32
    refuse .dictionary
  else return ()

/-- Passes over bytes up to a zero. The number of bits is fuel enough. -/
def skipText : Nat → Reading Unit
  | 0 => throw .torn
  | fuel + 1 => do if (← nextBits 8) == 0 then return () else skipText fuel

/-- The bytes before a tape, given one that begins earlier. -/
def bytesBefore (start : List UInt8) : Reading (Array UInt8) :=
  return (start.take (start.length - (← bitsLeft) / 8)).toArray

/-- Reads the long header of some bytes. Its flags tell which further parts it has. -/
def readLongHeader (bytes : List UInt8) : Reading Unit := do
  if (← nextBits 16) != 0x8B1F then refuse .header
  let method ← nextBits 8
  let flags ← nextBits 8
  if method != 8 then refuse .method
  if flags ≥ 0x20 then refuse .flags
  let _ ← nextBits 48
  if flags.testBit 2 then
    let length ← nextBits 16
    let _ ← nextBits (8 * length)
  if flags.testBit 3 then skipText ((← bitsLeft) + 1)
  if flags.testBit 4 then skipText ((← bitsLeft) + 1)
  if flags.testBit 1 then
    let sum := cyclicSum (← bytesBefore bytes)
    if (← nextBits 16) != sum % 0x10000 then refuse .headerCheck

/-- Reads wrapped bytes from their beginning to their end. -/
def Wrapping.read (wrapping : Wrapping) (bytes : List UInt8) : Reading Unit :=
  match wrapping with
  | .bare => inflate
  | .short => do
    readShortHeader
    inflate
    skipToByte
    if (← nextBigEndian 4) != simpleSum (← get).made then refuse .dataCheck
  | .long => do
    readLongHeader bytes
    inflate
    skipToByte
    let made := (← get).made
    if (← nextBits 32) != cyclicSum made then refuse .dataCheck
    if (← nextBits 32) != made.size % 0x100000000 then refuse .lengthCheck

/-- The bytes that wrapped bytes make, or as many as are there of them. -/
def Wrapping.unpack (wrapping : Wrapping) (bytes : List UInt8) : Except Fault (Array UInt8) :=
  match (wrapping.read bytes).run.run (.ofBytes bytes) with
  | (.error (.fault fault), _) => .error fault
  | (_, tape) => .ok tape.made

end ODataExplorer.Deflate
