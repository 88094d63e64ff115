import ODataExplorer.Charset.Front
import ODataExplorer.Charset.KoreanRows

/-!
Korean character sets.

A syllable has a lead, a vowel and maybe a tail, and all syllables stand in Unicode in the order of
these. The basic set has 2350 of them, and in it any other can be spelled by its letters. The
extended set adds codes for the others, in the order of Unicode. The combining set has codes that
are made of the numbers of the letters.
-/

namespace ODataExplorer.Charset

open Text

/-! ## Syllables -/

/-- The letters that lead a syllable, in order. -/
def leadLetters : List Char := "ㄱㄲㄴㄷㄸㄹㅁㅂㅃㅅㅆㅇㅈㅉㅊㅋㅌㅍㅎ".toList

/-- The vowels, in order. -/
def vowelLetters : List Char := "ㅏㅐㅑㅒㅓㅔㅕㅖㅗㅘㅙㅚㅛㅜㅝㅞㅟㅠㅡㅢㅣ".toList

/-- The letters at the end of a syllable, in order. -/
def tailLetters : List Char := "ㄱㄲㄳㄴㄵㄶㄷㄹㄺㄻㄼㄽㄾㄿㅀㅁㅂㅄㅅㅆㅇㅈㅊㅋㅌㅍㅎ".toList

/-- The syllable of three numbers; the tail number zero says that there is no tail. -/
def syllable (lead vowel tail : Nat) : Char :=
  Char.ofNat (0xAC00 + (lead * vowelLetters.length + vowel) * (tailLetters.length + 1) + tail)

/-! ## The basic set -/

/-- The basic set. -/
def basicKoreanTable : PairTable := PairTable.empty.write koreanRows

/-- The first byte of the codes of letters. -/
def letterLead : Nat := 0xA4

/-- The second byte of the code that stands for no letter and opens a spelled syllable. -/
def letterFiller : Nat := 0xD4

/-- The basic set where that code is of a character for itself, and nothing is spelled. -/
def filledKoreanTable : PairTable := basicKoreanTable.put (letterLead, letterFiller) '\u3164'

/-- The syllable that three letters spell, each by the second byte of its code. -/
def spelled? (lead vowel tail : Nat) : Option Char := do
  let letter? (trail : Nat) := basicKoreanTable.char? letterLead trail
  let lead ← leadLetters.idxOf? (← letter? lead)
  let vowel ← vowelLetters.idxOf? (← letter? vowel)
  let tail ←
    if tail == letterFiller then some 0
    else (tailLetters.idxOf? (← letter? tail)).map (· + 1)
  return syllable lead vowel tail

/-- What stands at the front of a text in the basic set. A spelled syllable takes four codes. -/
def basicKoreanFront (state : Unit) (byte : UInt8) (rest : List UInt8) : Front Unit :=
  match rest with
  | second :: more =>
    if byte.toNat == letterLead && second.toNat == letterFiller then
      match more with
      | a :: lead :: b :: vowel :: c :: tail :: _ =>
        if a.toNat == letterLead && b.toNat == letterLead && c.toNat == letterLead then
          .ofChar? 8 (spelled? lead.toNat vowel.toNat tail.toNat)
        else .stray 1
      | _ => .torn
    else frontOfPairs basicKoreanTable.char? state byte rest
  | [] => frontOfPairs basicKoreanTable.char? state byte rest

/-! ## The extended set -/

/-- The extended set. -/
def extendedKoreanTable : PairTable :=
  let letters := between 0x41 0x5A ++ between 0x61 0x7A
  filledKoreanTable.fill
    (codesOf (between 0x81 0xA0) (letters ++ between 0x81 0xFE) ++
      codesOf (between 0xA1 0xC6) (letters ++ between 0x81 0xA0))
    (basicKoreanTable.charsWithout 0xAC00 0xD7A3)

/-! ## The combining set -/

/-- What five bits say of a part of a syllable. -/
inductive Part where
  | missing
  | letter (index : Nat)
  deriving DecidableEq, Repr

/-- The lead that five bits say. -/
def leadPart? (bits : Nat) : Option Part :=
  if bits == 1 then some .missing
  else if 2 ≤ bits && bits < 21 then some (.letter (bits - 2))
  else none

/-- The vowel that five bits say. They come in groups of eight with two numbers left out at the
beginning of each. -/
def vowelPart? (bits : Nat) : Option Part :=
  if bits == 2 then some .missing
  else if bits < 3 || bits > 29 || bits % 8 < 2 then none
  else some (.letter (bits - 3 - 2 * (bits / 8)))

/-- The tail that five bits say. -/
def tailPart? (bits : Nat) : Option Part :=
  if bits == 1 then some .missing
  else if 2 ≤ bits && bits < 18 then some (.letter (bits - 2))
  else if 19 ≤ bits && bits < 30 then some (.letter (bits - 3))
  else none

/-- The character of three parts: a syllable, a letter alone, or a blank. -/
def combined? : Part → Part → Part → Option Char
  | .missing, .missing, .missing => some '\u3000'
  | .missing, .missing, .letter tail => tailLetters[tail]?
  | .missing, .letter vowel, .missing => vowelLetters[vowel]?
  | .letter lead, .missing, .missing => leadLetters[lead]?
  | .letter lead, .letter vowel, .missing => some (syllable lead vowel 0)
  | .letter lead, .letter vowel, .letter tail => some (syllable lead vowel (tail + 1))
  | _, _, _ => none

/-- The character of a code of the combining set. From some first byte on, the codes are those of
the symbols and hanja of the basic set: two rows for each first byte. -/
def combiningPair? (a b : Nat) : Option Char :=
  if a < 0xD8 then do
    combined? (← leadPart? (a / 4 % 32)) (← vowelPart? (a % 4 * 8 + b / 32)) (← tailPart? (b % 32))
  else if a == 0xD8 || a == 0xDF || a > 0xF9 || b < 0x31 || (0x80 ≤ b && b < 0x91) || b % 0x80 == 0x7F ||
      (a == 0xDA && 0xA1 ≤ b && b ≤ 0xD3) then none
  else
    let row := if a < 0xE0 then 2 * (a - 0xD9) else 2 * a - 0x197
    let cell := if b < 0x91 then b - 0x31 else b - 0x43
    filledKoreanTable.char? (0xA1 + row + cell / 94) (0xA1 + cell % 94)

end ODataExplorer.Charset
