/-!
Reading compressed bytes bit by bit.

The bits of a byte are read from the lowest up. What has been read is a text of bytes so far; it
stays when reading stops, be it that the bits have run out or that they make no sense.
-/

namespace ODataExplorer.Deflate

/-- Why bytes are not compressed ones. -/
inductive Fault where
  | header
  | method
  | window
  | dictionary
  | flags
  | headerCheck
  | blockType
  | storedLength
  | symbolCount
  | lengthCodes
  | lengthRepeat
  | endOfBlock
  | literalCodes
  | distanceCodes
  | literal
  | distance
  | farDistance
  | dataCheck
  | lengthCheck
  deriving DecidableEq, Repr

/-- What is wrong, where there is more to say than that a dictionary is missing. -/
def Fault.reason? : Fault → Option String
  | .header => some "incorrect header check"
  | .method => some "unknown compression method"
  | .window => some "invalid window size"
  | .dictionary => none
  | .flags => some "unknown header flags set"
  | .headerCheck => some "header crc mismatch"
  | .blockType => some "invalid block type"
  | .storedLength => some "invalid stored block lengths"
  | .symbolCount => some "too many length or distance symbols"
  | .lengthCodes => some "invalid code lengths set"
  | .lengthRepeat => some "invalid bit length repeat"
  | .endOfBlock => some "invalid code -- missing end-of-block"
  | .literalCodes => some "invalid literal/lengths set"
  | .distanceCodes => some "invalid distances set"
  | .literal => some "invalid literal/length code"
  | .distance => some "invalid distance code"
  | .farDistance => some "invalid distance too far back"
  | .dataCheck => some "incorrect data check"
  | .lengthCheck => some "incorrect length check"

def Fault.message (fault : Fault) : String :=
  match fault.reason? with
  | some reason => s!"Error -3 while decompressing data: {reason}"
  | none => "Error 2 while decompressing data"

/-- Why reading stops before its end. -/
inductive Stop where
  /-- The bits have run out. -/
  | torn
  | fault (fault : Fault)
  deriving DecidableEq, Repr

/-- The bits that are left, and the bytes that were made of those before. -/
structure Tape where
  bits : List Bool
  made : Array UInt8 := #[]

/-- Reading from a tape. -/
abbrev Reading := ExceptT Stop (StateM Tape)

/-- The bits of a byte, the lowest first. -/
def bitsOfByte (byte : UInt8) : List Bool := (List.range 8).map byte.toNat.testBit

/-- A tape of bytes. -/
def Tape.ofBytes (bytes : List UInt8) : Tape := { bits := bytes.flatMap bitsOfByte }

/-- Refuses what is read. -/
def refuse {α : Type} (fault : Fault) : Reading α := throw (.fault fault)

/-- The next bit. -/
def nextBit : Reading Bool := do
  let tape ← get
  match tape.bits with
  | bit :: bits =>
    set { tape with bits }
    return bit
  | [] => throw .torn

/-- A number of some bits, the lowest first. -/
def nextBits : Nat → Reading Nat
  | 0 => return 0
  | n + 1 => do
    let bit ← nextBit
    let high ← nextBits n
    return bit.toNat + 2 * high

/-- Passes over the bits that are left of a byte. -/
def skipToByte : Reading Unit :=
  modify fun tape => { tape with bits := tape.bits.drop (tape.bits.length % 8) }

/-- How many bits are left. -/
def bitsLeft : Reading Nat := return (← get).bits.length

/-- Makes a byte. -/
def make (byte : UInt8) : Reading Unit :=
  modify fun tape => { tape with made := tape.made.push byte }

/-- Makes bytes again that were made some bytes before. -/
def makeAgain (distance : Nat) : Nat → Reading Unit
  | 0 => return ()
  | n + 1 => do
    let made := (← get).made
    make (made.getD (made.size - distance) 0)
    makeAgain distance n

end ODataExplorer.Deflate
