import ODataExplorer.Charset.ExtensionRows
import ODataExplorer.Charset.Japanese

/-!
The extended Japanese sets.

The extension fills the rows of the basic set and adds a second plane. Some of its codes are of two
characters, a letter and a mark behind it. There are two editions: the first one lacks ten
characters of the first plane and has another form of one of the second. Both are coded as the basic
set is, with marks or shifted; in shifted codes the second plane has first bytes of its own.
-/

namespace ODataExplorer.Charset

/-- An edition of the extension. -/
inductive Edition where
  | first
  | second
  deriving DecidableEq, Repr

/-! ## The planes -/

/-- The first plane but for the codes of two characters. -/
def firstPlaneTable : PairTable := basicJapaneseTable.write extensionRows

/-- The second plane. -/
def secondPlaneTable : PairTable := PairTable.empty.write secondPlaneRows

/-- The codes of two characters: kana with a sign for another sound, phonetic letters with accents,
and two pairs of tone marks. -/
def extensionMarked : List MarkedStretch := [
  ⟨⟨0xA4, 0xF7, "かきくけこ"⟩, '\u309a'⟩,
  ⟨⟨0xA5, 0xF7, "カキクケコセツト"⟩, '\u309a'⟩,
  ⟨⟨0xA6, 0xF8, "ㇷ"⟩, '\u309a'⟩,
  ⟨⟨0xAB, 0xC4, "æ\ufffd\ufffd\ufffdɔ\ufffdʌ\ufffdə\ufffdɚ"⟩, '\u0300'⟩,
  ⟨⟨0xAB, 0xC9, "ɔ\ufffdʌ\ufffdə\ufffdɚ"⟩, '\u0301'⟩,
  ⟨⟨0xAB, 0xE5, "˩"⟩, '˥'⟩,
  ⟨⟨0xAB, 0xE6, "˥"⟩, '˩'⟩]

/-- The codes of the first plane that came with the second edition. -/
def laterCodes : List (Nat × Nat) :=
  [(0xAE, 0xA1), (0xAF, 0xFE), (0xCF, 0xD4), (0xCF, 0xFE), (0xF4, 0xA7), (0xFE, 0xFA), (0xFE, 0xFB),
    (0xFE, 0xFC), (0xFE, 0xFD), (0xFE, 0xFE)]

/-- Whether an edition lacks a code of the first plane that the other one has. -/
def Edition.lacks : Edition → Nat → Nat → Bool
  | .first, row, cell => laterCodes.contains (row, cell)
  | .second, _, _ => false

/-- The characters of a code of the first plane, in both editions. -/
def firstPlane? (row cell : Nat) : Option (List Char) :=
  ((firstPlaneTable.char? row cell).map ([·])).or (markedChars? extensionMarked row cell)

/-- The character of a code of the second plane. -/
def secondPlane? (edition : Edition) (row cell : Nat) : Option Char :=
  if edition == .first && (row, cell) == (0xFD, 0xBB) then some '鬝'
  else secondPlaneTable.char? row cell

/-- A code of two bytes of the first plane. One that the edition lacks is of nothing, but of two
bytes all the same. -/
def firstPlaneFront (edition : Edition) (plane? : Nat → Nat → Option (List Char))
    (row cell : Nat) : Front Unit :=
  if edition.lacks row cell then .stray 2 else .ofChars? 2 (plane? row cell)

/-! ## Codes with marks -/

/-- What stands at the front of a text with marks. Behind the mark of the supplementary set stands a
code of the second plane or, where that has none, of the supplementary set. -/
def markedExtendedFront (edition : Edition) (_ : Unit) (byte : UInt8) (rest : List UInt8) :
    Front Unit :=
  if byte.toNat == 0x8F then
    match rest with
    | row :: cell :: _ =>
      .ofChar? 3 ((secondPlane? edition row.toNat cell.toNat).or
        (supplementaryJapaneseTable.char? row.toNat cell.toNat))
    | _ => .torn
  else
    frontOfTwo
      (fun lead trail =>
        if lead == 0x8E then .ofChar? 2 (halfWidth? trail)
        else firstPlaneFront edition firstPlane? lead trail)
      byte rest

/-! ## Shifted codes -/

/-- The row of a shifted code and the place in it, counted from 0. Each first byte has two rows. -/
def shiftedPlace? (lead trail : Nat) : Option (Nat × Nat) :=
  if trail < 0x40 || trail == 0x7F || trail > 0xFC then none
  else
    let row := 2 * (lead - if lead < 0xE0 then 0x81 else 0xC1)
    let cell := trail - if trail < 0x7F then 0x40 else 0x41
    some (if cell < 94 then (row, cell) else (row + 1, cell - 94))

/-- The rows of the second plane in the order of their shifted codes. -/
def secondPlaneOrder : List Nat :=
  [0xA1, 0xA8, 0xA3, 0xA4, 0xA5, 0xAC, 0xAD, 0xAE, 0xAF] ++ between 0xEE 0xFE

/-- The first plane where its full-width tilde is the one of ASCII. -/
def firstPlaneWithTilde? (row cell : Nat) : Option (List Char) :=
  if (row, cell) == (0xA2, 0xB2) then some ['~'] else firstPlane? row cell

/-- The first plane in shifted codes, where its full-width backslash is the one of ASCII as well. -/
def shiftedFirstPlane? (row cell : Nat) : Option (List Char) :=
  if (row, cell) == (0xA1, 0xC0) then some ['\\'] else firstPlaneWithTilde? row cell

/-- What stands at the front of a text in shifted codes. The rows behind the first plane are those
of the second. -/
def shiftedExtendedFront (edition : Edition) (_ : Unit) (byte : UInt8) (rest : List UInt8) :
    Front Unit :=
  let n := byte.toNat
  if n < 0x80 then .plain 1 (romanLetter n)
  else if !isShiftedLead n then .ofChar? 1 (halfWidth? n)
  else
    match rest with
    | [] => .torn
    | second :: _ =>
      match shiftedPlace? n second.toNat with
      | none => .stray 1
      | some (row, cell) =>
        if row < 94 then firstPlaneFront edition shiftedFirstPlane? (0xA1 + row) (0xA1 + cell)
        else
          .ofChar? 2 (secondPlaneOrder[row - 94]?.bind fun row =>
            secondPlane? edition row (0xA1 + cell))

end ODataExplorer.Charset
