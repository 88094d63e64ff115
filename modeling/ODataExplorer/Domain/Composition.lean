import ODataExplorer.Domain.MarkTable

/-!
The composed form of texts.

A letter with marks has several spellings. The composed one takes every letter apart, puts the marks
after each letter in the order of their combining classes, and then composes what can be composed,
from the left. A mark meets its letter over the marks between them unless one of these has the same
class or a higher one. Some characters are but other names of a letter, or of a letter with marks,
and are in no composed text.

The syllables of Korean are composed of two or three letters and stand in the order of these, so
that they need no table.
-/

namespace ODataExplorer.Domain

open Text

/-- The combining class of a character: zero for all but most marks. -/
def combiningClass (c : Char) : Nat :=
  match combiningRuns.find? fun (low, high, _) => low ≤ c.toNat && c.toNat ≤ high with
  | some (_, _, order) => order
  | none => 0

/-! ## Korean syllables -/

/-- The first code point of some Korean letters, and how many of them there are. -/
structure LetterBlock where
  first : Nat
  count : Nat
  deriving Repr

namespace LetterBlock

/-- The letters that begin a syllable. -/
def leading : LetterBlock := { first := 0x1100, count := 19 }

def vowels : LetterBlock := { first := 0x1161, count := 21 }

/-- The letters that may end a syllable. -/
def trailing : LetterBlock := { first := 0x11A8, count := 27 }

/-- The syllables. Those of one beginning and one vowel follow one another, the one without an ending
first. -/
def syllables : LetterBlock := { first := 0xAC00, count := 11172 }

/-- The place of a letter in a block. -/
def indexOf? (block : LetterBlock) (c : Char) : Option Nat :=
  if block.first ≤ c.toNat && c.toNat < block.first + block.count then some (c.toNat - block.first)
  else none

def letter (block : LetterBlock) (index : Nat) : Char := Char.ofNat (block.first + index)

end LetterBlock

open LetterBlock

/-- How many syllables there are of one beginning and one vowel. -/
def endings : Nat := trailing.count + 1

/-- The parts of a syllable: its ending and what is before it or, without one, two letters. -/
def syllableParts? (c : Char) : Option (Char × Char) :=
  (syllables.indexOf? c).map fun index =>
    match index % endings with
    | 0 =>
      let pair := index / endings
      (leading.letter (pair / vowels.count), vowels.letter (pair % vowels.count))
    | ending + 1 => (syllables.letter (index - (ending + 1)), trailing.letter ending)

/-- The syllable of two parts. -/
def syllable? (first second : Char) : Option Char :=
  match leading.indexOf? first, vowels.indexOf? second with
  | some beginning, some vowel =>
    some (syllables.letter ((beginning * vowels.count + vowel) * endings))
  | _, _ =>
    match syllables.indexOf? first, trailing.indexOf? second with
    | some index, some ending =>
      if index % endings == 0 then some (syllables.letter (index + ending + 1)) else none
    | _, _ => none

/-! ## Composition -/

/-- The two parts that a letter is composed of. -/
def partsOf? (c : Char) : Option (Char × Char) :=
  (syllableParts? c).or <|
    (compositions.find? fun (_, _, whole) => whole == c.toNat).map fun (first, second, _) =>
      (Char.ofNat first, Char.ofNat second)

/-- The letter that two parts are composed to. -/
def composed? (first second : Char) : Option Char :=
  (syllable? first second).or <|
    (compositions.find? fun (a, b, _) => a == first.toNat && b == second.toNat).map
      fun (_, _, whole) => Char.ofNat whole

/-- How many parts a letter has beside the first, at most. -/
def mostParts : Nat := 3

/-- A letter taken apart. The fuel bounds how often the first part is itself taken apart. -/
def takeApart : Nat → Char → List Char
  | 0, c => [c]
  | fuel + 1, c =>
    match partsOf? c with
    | some (first, second) => takeApart fuel first ++ [second]
    | none => [c]

/-- Puts a mark before marks of higher classes and after all others. `marks` come last first. -/
def insertMark (mark : Char) : List Char → List Char
  | [] => [mark]
  | last :: marks =>
    if combiningClass mark < combiningClass last then last :: insertMark mark marks
    else mark :: last :: marks

/-- Puts the marks after each letter in order; `marks` are those since the last letter, last first. -/
def orderMarks (marks : List Char) : List Char → List Char
  | [] => marks.reverse
  | c :: cs =>
    if combiningClass c == 0 then marks.reverse ++ c :: orderMarks [] cs
    else orderMarks (insertMark c marks) cs

/-- Composes a letter with what follows it. `kept` are the characters after the letter that were not
composed with it, last first. -/
def compose (letter : Char) (kept : List Char) : List Char → List Char
  | [] => letter :: kept.reverse
  | c :: cs =>
    let blocked := kept.head?.any fun last => combiningClass c ≤ combiningClass last
    match if blocked then none else composed? letter c with
    | some whole => compose whole kept cs
    | none =>
      if combiningClass c == 0 then letter :: kept.reverse ++ compose c [] cs
      else compose letter (c :: kept) cs

/-- The composed form of a text without the characters that others stand for. -/
def composedForm (cs : List Char) : List Char :=
  match orderMarks [] (cs.flatMap (takeApart mostParts)) with
  | c :: rest => compose c [] rest
  | [] => []

/-- Whether a text is composed. -/
def isComposed (cs : List Char) : Bool :=
  !cs.any replacedCharacters.holds && composedForm cs == cs

end ODataExplorer.Domain
