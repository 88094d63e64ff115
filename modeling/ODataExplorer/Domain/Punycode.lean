import ODataExplorer.Text.Repertoire

/-!
Punycode: labels in ASCII.

The ASCII characters of a label are written first, in their order, with a hyphen after them. The
others follow as insertions, by code point and then by place: each is the number of steps from the
last insertion, where a step goes to the next place and, past the last place, to the next code
point. Such a number is written least digit first in base 36; how far a digit reaches before the
number has to end depends on the digit's place and on a bias that follows the numbers written so
far.
-/

namespace ODataExplorer.Domain.Punycode

open Text

/-- The least digit at a place that does not end a number. -/
def threshold (place bias : Nat) : Nat :=
  max 1 (min 26 (36 * (place + 1) - bias))

/-- Divides a number until it is small: how often, and what is left. -/
def divideDown : Nat → Nat → Nat × Nat
  | 0, delta => (0, delta)
  | fuel + 1, delta =>
    if delta ≤ 455 then (0, delta)
    else
      let (count, left) := divideDown fuel (delta / 35)
      (count + 1, left)

/-- The bias after a number was written; `count` characters are there by now. -/
def adapt (delta : Nat) (first : Bool) (count : Nat) : Nat :=
  let scaled := if first then delta / 700 else delta / 2
  let (divisions, left) := divideDown scaled (scaled + scaled / count)
  36 * divisions + 36 * left / (left + 38)

def firstBias : Nat := 72

/-! ## Writing -/

/-- The sign of a digit: letters, then the ASCII digits. -/
def digitChar (digit : Nat) : Char :=
  Char.ofNat (if digit < 26 then 0x61 + digit else 0x16 + digit)

/-- Writes a number from a place on. The fuel bounds the number of digits. -/
def writeNumber (bias place : Nat) : Nat → Nat → List Char
  | 0, _ => []
  | fuel + 1, number =>
    let t := threshold place bias
    if number < t then [digitChar number]
    else
      digitChar (t + (number - t) % (36 - t)) ::
        writeNumber bias (place + 1) fuel ((number - t) / (36 - t))

/-- A label while its insertions are written. -/
structure Progress where
  /-- The steps since the last insertion. -/
  steps : Nat
  bias : Nat := firstBias
  /-- The number of characters written. -/
  count : Nat
  /-- No insertion was written. -/
  first : Bool := true
  text : List Char := []

/-- Passes a character of the label while insertions of `code` are written. -/
def Progress.pass (code : Nat) (progress : Progress) (c : Char) : Progress :=
  if c.toNat < code then { progress with steps := progress.steps + 1 }
  else if c.toNat == code then
    let count := progress.count + 1
    { steps := 0
      bias := adapt progress.steps progress.first count
      count
      first := false
      text :=
        progress.text ++ writeNumber progress.bias 0 (progress.steps + 1) progress.steps }
  else progress

/-- Writes all insertions. `code` is the code point that the steps have reached; `codes` are those
to be inserted, in rising order. -/
def writeInsertions (label : List Char) (code : Nat) (progress : Progress) : List Nat → List Char
  | [] => progress.text
  | next :: codes =>
    let reached :=
      { progress with steps := progress.steps + (next - code) * (progress.count + 1) }
    let passed := label.foldl (Progress.pass next) reached
    writeInsertions label (next + 1) { passed with steps := passed.steps + 1 } codes

/-- Inserts a code point in a rising list, once. -/
def insertCode (code : Nat) : List Nat → List Nat
  | [] => [code]
  | other :: codes =>
    if code < other then code :: other :: codes
    else if code == other then other :: codes
    else other :: insertCode code codes

/-- The code points beyond ASCII of a label, in rising order. -/
def foreignCodes (label : List Char) : List Nat :=
  (label.filter (!isAscii ·)).foldr (fun c codes => insertCode c.toNat codes) []

/-- A label in ASCII. -/
def encode (label : List Char) : List Char :=
  let basic := label.filter isAscii
  let front := if basic.isEmpty then [] else basic ++ ['-']
  front ++
    writeInsertions label 0x80 { steps := 0, count := basic.length } (foreignCodes label)

/-! ## Reading -/

/-- The value of a digit in lower case. -/
def digitValue? (c : Char) : Option Nat :=
  if 'a' ≤ c && c ≤ 'z' then some (c.toNat - 0x61)
  else if '0' ≤ c && c ≤ '9' then some (c.toNat - 0x16)
  else none

/-- Reads a number from a place on: the number and what follows it. -/
def readNumber (bias place weight number : Nat) : List Char → Option (Nat × List Char)
  | [] => none
  | c :: cs => do
    let digit ← digitValue? c
    let number := number + digit * weight
    let t := threshold place bias
    if digit < t then return (number, cs)
    readNumber bias (place + 1) (weight * (36 - t)) number cs

/-- Reads insertions into a label. `code` and `index` are where the last one was reached; the fuel
bounds the number of insertions. -/
def readInsertions (bias code index : Nat) (first : Bool) (label : List Char) :
    Nat → List Char → Option (List Char)
  | _, [] => some label
  | 0, _ => none
  | fuel + 1, cs => do
    let (steps, rest) ← readNumber bias 0 1 0 cs
    let reached := index + steps
    let places := label.length + 1
    let code := code + reached / places
    if !code.isValidChar then none
    let index := reached % places
    let label := label.take index ++ Char.ofNat code :: label.drop index
    readInsertions (adapt steps first label.length) code (index + 1) false label fuel rest

/-- The label that an ASCII text in lower case stands for. The last hyphen ends the part that is
taken as it is. -/
def decode? (cs : List Char) : Option (List Char) :=
  let digits := (cs.reverse.takeWhile (· != '-')).reverse
  let basic := cs.take (cs.length - digits.length - 1)
  readInsertions firstBias 0x80 0 true basic digits.length digits

end ODataExplorer.Domain.Punycode
