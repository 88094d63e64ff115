import ODataExplorer.Deflate.Code

/-!
Blocks of compressed bytes.

The bytes come in blocks, each of one of three kinds: stored as they are, or as symbols in codes that
are fixed or that the block begins with. A symbol is a byte, the end of the block, or the length of a
piece that was made before; the distance to it follows. Some symbols have further bits.
-/

namespace ODataExplorer.Deflate

/-! ## Symbols -/

/-- The symbol at the end of a block. -/
def endSymbol : Nat := 256

/-- The least number of each of some ranges that follow one another, and the number of further bits
that count within it. -/
def ranges (first : Nat) : List Nat → List (Nat × Nat)
  | [] => []
  | bits :: rest => (first, bits) :: ranges (first + Nat.pow 2 bits) rest

/-- The ranges of lengths, one for each symbol after the one at the end. The last one is the longest
length alone. -/
def lengthRanges : List (Nat × Nat) :=
  ranges 3 [0, 0, 0, 0, 0, 0, 0, 0, 1, 1, 1, 1, 2, 2, 2, 2, 3, 3, 3, 3, 4, 4, 4, 4, 5, 5, 5, 5] ++
    [(258, 0)]

/-- The ranges of distances. -/
def distanceRanges : List (Nat × Nat) :=
  ranges 1 [0, 0, 0, 0, 1, 1, 2, 2, 3, 3, 4, 4, 5, 5, 6, 6, 7, 7, 8, 8, 9, 9, 10, 10, 11, 11, 12, 12,
    13, 13]

/-- A number in a range. -/
def readInRange (range : Nat × Nat) : Reading Nat := return range.1 + (← nextBits range.2)

/-- Reads the symbols of a block up to its end. Each takes a bit at least, so the number of bits is
fuel enough. -/
def readSymbols (literals distances : Code) : Nat → Reading Unit
  | 0 => throw .torn
  | fuel + 1 => do
    match ← literals.read with
    | none => refuse .literal
    | some symbol =>
      if symbol < endSymbol then
        make symbol.toUInt8
        readSymbols literals distances fuel
      else if symbol == endSymbol then return ()
      else
        match lengthRanges[symbol - endSymbol - 1]? with
        | none => refuse .literal
        | some range =>
          let length ← readInRange range
          match (← distances.read).bind (distanceRanges[·]?) with
          | none => refuse .distance
          | some range =>
            let distance ← readInRange range
            if distance > (← get).made.size then refuse .farDistance
            else
              makeAgain distance length
              readSymbols literals distances fuel

/-! ## Codes -/

/-- The fixed code of bytes and lengths. -/
def fixedLiterals : Code :=
  .ofComplete (List.replicate 144 8 ++ List.replicate 112 9 ++ List.replicate 24 7 ++
    List.replicate 8 8)

/-- The fixed code of distances. -/
def fixedDistances : Code := .ofComplete (List.replicate 32 5)

/-- The order in which the lengths of the codes of lengths come. -/
def lengthOrder : List Nat := [16, 17, 18, 0, 8, 7, 9, 6, 10, 5, 11, 4, 12, 3, 13, 2, 14, 1, 15]

/-- Reads some numbers of three bits. -/
def readTriples : Nat → Reading (List Nat)
  | 0 => return []
  | n + 1 => do
    let triple ← nextBits 3
    return triple :: (← readTriples n)

/-- The code of lengths. Where no length has a code, every bit stands for none. -/
def readLengthCode (count : Nat) : Reading Code := do
  let triples := lengthOrder.zip (← readTriples count)
  let lengths := (List.range lengthOrder.length).map fun symbol => (triples.lookup symbol).getD 0
  if lengths.all (· == 0) then return .ofBit (some 0) (some 0)
  else if Code.isComplete lengths then return .ofComplete lengths
  else refuse .lengthCodes

/-- Reads lengths until there are `count` of them. Three symbols stand for repeated ones. Each symbol
takes a bit at least, so the number of bits is fuel enough. -/
def readLengths (code : Code) (count : Nat) (done : Array Nat) : Nat → Reading (List Nat)
  | 0 => throw .torn
  | fuel + 1 => do
    if done.size ≥ count then return done.toList
    else
      match (← code.read).getD 0 with
      | 16 =>
        let times := 3 + (← nextBits 2)
        match done.back? with
        | some last => goOn last times fuel
        | none => refuse .lengthRepeat
      | 17 => goOn 0 (3 + (← nextBits 3)) fuel
      | 18 => goOn 0 (11 + (← nextBits 7)) fuel
      | length => readLengths code count (done.push length) fuel
where
  goOn (length times fuel : Nat) : Reading (List Nat) :=
    if done.size + times > count then refuse .lengthRepeat
    else readLengths code count (done ++ Array.replicate times length) fuel

/-- Reads the codes that a block begins with: of bytes and lengths, and of distances. -/
def readCodes : Reading (Code × Code) := do
  let literalCount := 257 + (← nextBits 5)
  let distanceCount := 1 + (← nextBits 5)
  let lengthCount := 4 + (← nextBits 4)
  if literalCount > 286 || distanceCount > 30 then refuse .symbolCount
  else
    let code ← readLengthCode lengthCount
    let lengths ← readLengths code (literalCount + distanceCount) #[] ((← bitsLeft) + 1)
    if lengths.getD endSymbol 0 == 0 then refuse .endOfBlock
    else
      match Code.ofLengths? (lengths.take literalCount) with
      | none => refuse .literalCodes
      | some literals =>
        match Code.ofLengths? (lengths.drop literalCount) with
        | none => refuse .distanceCodes
        | some distances => return (literals, distances)

/-! ## Blocks -/

/-- Reads bytes that are stored as they are. -/
def readBytes : Nat → Reading Unit
  | 0 => return ()
  | n + 1 => do
    make (← nextBits 8).toUInt8
    readBytes n

/-- Reads a stored block. Its length comes twice, once with all bits turned. -/
def readStored : Reading Unit := do
  skipToByte
  let length ← nextBits 16
  let turned ← nextBits 16
  if length + turned == 0xFFFF then readBytes length else refuse .storedLength

/-- Reads a block of symbols. -/
def readCoded (codes : Code × Code) : Reading Unit := do
  readSymbols codes.1 codes.2 ((← bitsLeft) + 1)

/-- Reads blocks up to the last one. Each takes a bit at least, so the number of bits is fuel
enough. -/
def readBlocks : Nat → Reading Unit
  | 0 => throw .torn
  | fuel + 1 => do
    let isLast ← nextBit
    match ← nextBits 2 with
    | 0 => readStored
    | 1 => readCoded (fixedLiterals, fixedDistances)
    | 2 => readCoded (← readCodes)
    | _ => refuse .blockType
    if isLast then return () else readBlocks fuel

/-- Reads all blocks. -/
def inflate : Reading Unit := do readBlocks ((← bitsLeft) + 1)

end ODataExplorer.Deflate
