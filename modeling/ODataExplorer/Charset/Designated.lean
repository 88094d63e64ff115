import ODataExplorer.Charset.Chinese
import ODataExplorer.Charset.JapaneseExtension
import ODataExplorer.Charset.Korean

/-!
Character sets that escape sequences choose.

All bytes are below 0x80. An escape sequence says which set the bytes after it belong to; a scheme
says which sets there are. There are places for three sets. Where a scheme has shifts, two control
characters switch between the first two, and the end of a line switches back; where it has single
shifts, a letter behind an escape is of the third. Not every set has letters for single shifts, and
after choosing one that has none the reader fails at the next of them.
-/

namespace ODataExplorer.Charset

open Text

/-- A set that an escape sequence can choose: the byte that names it, whether its codes have two
bytes, their characters, and the characters of single shifts, if there are any. -/
structure GraphicSet where
  final : Nat
  isWide : Bool
  chars? : Nat → Nat → Option (List Char)
  single? : Option (Nat → Option Char) := none

/-- A set of codes of one byte. -/
def narrowSet (final : Char) (char? : Nat → Option Char) : GraphicSet :=
  { final := final.toNat, isWide := false, chars? := fun n _ => (char? n).map ([·]) }

/-- A set of codes of two bytes, whose characters are given by their codes with high bits. -/
def wideSet (final : Char) (chars? : Nat → Nat → Option (List Char)) : GraphicSet :=
  { final := final.toNat, isWide := true,
    chars? := fun row cell => chars? (row + 0x80) (cell + 0x80) }

/-- A set of the codes of a table. -/
def tableSet (final : Char) (table : PairTable) : GraphicSet :=
  wideSet final fun row cell => (table.char? row cell).map ([·])

/-- A set whose letters stand behind single shifts alone. -/
def singleSet (final : Char) (char? : Nat → Option Char) : GraphicSet :=
  { narrowSet final (fun _ => none) with single? := some char? }

/-- Letters of ASCII but for two. -/
def romanSet : GraphicSet := narrowSet 'J' (some <| romanLetter ·)

/-- Half-width letters. -/
def halfWidthSet : GraphicSet := narrowSet 'I' fun n => halfWidth? (n + 0x80)

/-- The letters of the west of Europe. -/
def westernSet : GraphicSet :=
  singleSet 'A' fun n => if n < 0x80 then some (Char.ofNat (n + 0x80)) else none

/-- The bytes of the signs that the Greek set shares with the western one. -/
def greekShared : List Nat :=
  [0xA0, 0xA3, 0xA6, 0xA7, 0xA8, 0xA9, 0xAB, 0xAC, 0xAD, 0xB0, 0xB1, 0xB2, 0xB3, 0xB7, 0xBB, 0xBD]

/-- The Greek letter of a byte. -/
def greek? (n : Nat) : Option Char :=
  if n < 0xA0 || greekShared.contains n then some (Char.ofNat n)
  else if n == 0xA1 then some '\u2018'
  else if n == 0xA2 then some '\u2019'
  else if n == 0xAF then some '\u2015'
  else if 0xB4 ≤ n && n ≤ 0xFE && n != 0xD2 then some (Char.ofNat (0x2D0 + n))
  else none

/-- Greek letters. -/
def greekSet : GraphicSet := singleSet 'F' fun n => greek? (n ^^^ 0x80)

/-- A scheme: its sets, whether it has shifts, whether a set may be chosen by its revision, and
whether it has single shifts. -/
structure Scheme where
  sets : List GraphicSet
  hasShifts : Bool
  hasRevisions : Bool
  hasSingleShifts : Bool := false

/-- The sets of Japanese mail. -/
def mailSets : List GraphicSet :=
  [tableSet 'B' basicJapaneseTable, romanSet, tableSet '@' basicJapaneseTable]

/-- Japanese mail. -/
def japaneseMailScheme : Scheme := ⟨mailSets, false, true, false⟩

/-- Japanese mail with the supplementary set. -/
def supplementedMailScheme : Scheme :=
  ⟨tableSet 'D' supplementaryJapaneseTable :: mailSets, false, true, false⟩

/-- Japanese mail with the supplementary set and half-width letters. -/
def extendedMailScheme : Scheme :=
  ⟨halfWidthSet :: tableSet 'D' supplementaryJapaneseTable :: mailSets, false, true, false⟩

/-- Japanese mail with sets of other languages. -/
def multilingualMailScheme : Scheme :=
  ⟨mailSets ++ [tableSet 'D' supplementaryJapaneseTable, tableSet 'C' filledKoreanTable,
    tableSet 'A' basicChineseTable, westernSet, greekSet], false, true, true⟩

/-- Japanese mail with an edition of the extension. -/
def planesMailScheme (edition : Edition) : Scheme :=
  let firstPlane : GraphicSet :=
    wideSet (if edition == .first then 'O' else 'Q') fun row cell =>
      if edition.lacks row cell then none else firstPlaneWithTilde? row cell
  let secondPlane : GraphicSet :=
    wideSet 'P' fun row cell => (secondPlane? .second row cell).map ([·])
  ⟨[tableSet 'B' basicJapaneseTable, firstPlane, secondPlane], false, true, false⟩

/-- Korean mail. -/
def koreanMailScheme : Scheme := ⟨[tableSet 'C' filledKoreanTable], true, false, false⟩

/-- A place for a set. -/
inductive SetPlace where
  | first
  | second
  | third
  deriving DecidableEq, Repr

/-- What is chosen. A set that is not there is ASCII. -/
structure Choice where
  first? : Option GraphicSet := none
  second? : Option GraphicSet := none
  third? : Option GraphicSet := none
  /-- Whether the second set is on. -/
  isShifted : Bool := false
  /-- Whether an escape sequence that chooses nothing is passing. -/
  isPassing : Bool := false
  /-- Whether the reader has failed. -/
  isBroken : Bool := false

/-- Whether a byte ends an escape sequence. -/
def endsEscape (n : Nat) : Bool := '@'.toNat ≤ n && n ≤ 'Z'.toNat

/-- The most bytes of an escape sequence. -/
def maxEscape : Nat := 16

/-- Where an escape sequence ends. -/
inductive EscapeEnd where
  | after (length : Nat)
  /-- It is too long. -/
  | nowhere
  /-- The text ends within it. -/
  | torn
  deriving DecidableEq, Repr

/-- Where an escape sequence ends, from its byte number `place` on. A revision is two bytes that are
passed over with the one after them. -/
def escapeEnd (revisions : Bool) (place : Nat) : List UInt8 → EscapeEnd
  | [] => if place < maxEscape then .torn else .nowhere
  | byte :: rest =>
    if place ≥ maxEscape then .nowhere
    else if endsEscape byte.toNat then .after (place + 1)
    else if revisions && byte.toNat == '&'.toNat && rest.head? == some '@'.toNat.toUInt8 then
      escapeEnd revisions (place + 3) (rest.drop 2)
    else escapeEnd revisions (place + 1) rest
termination_by bytes => bytes.length

/-- Puts a set in a place. -/
def Choice.choose (choice : Choice) (set? : Option GraphicSet) : SetPlace → Choice
  | .first => { choice with first? := set? }
  | .second => { choice with second? := set? }
  | .third => { choice with third? := set? }

/-- What an escape sequence chooses, from the bytes after its first; nothing if it is none of the
scheme. -/
def Scheme.chosen? (scheme : Scheme) (choice : Choice) (escape : List Char) : Option Choice :=
  let narrow? (place : SetPlace) (final : Char) : Option Choice :=
    if final == 'B' then some (choice.choose none place)
    else (scheme.sets.find? fun set => !set.isWide && set.final == final.toNat).map fun set =>
      choice.choose (some set) place
  let wide? (place : SetPlace) (final : Char) : Option Choice :=
    (scheme.sets.find? fun set => set.isWide && set.final == final.toNat).map fun set =>
      choice.choose (some set) place
  match escape with
  | ['$', final] => wide? .first final
  | ['(', final] => narrow? .first final
  | [')', final] => narrow? .second final
  | ['.', final] => if scheme.hasSingleShifts then narrow? .third final else none
  | ['$', '(', final] => wide? .first final
  | ['$', ')', final] => wide? .second final
  | [_, _, '\x1b', '$', 'B'] => if scheme.hasRevisions then wide? .first 'B' else none
  | _ => none

/-- What a single shift is the code of, given the byte behind it. Where the third set has no letters
for it the reader fails, and what is left is not read. -/
def Choice.singleFront (choice : Choice) (n : Nat) (rest : List UInt8) : Front Choice :=
  let single? : Option (Nat → Option Char) :=
    match choice.third? with
    | none => some fun n => if n < 0x80 then some (Char.ofNat n) else none
    | some set => set.single?
  match single? with
  | none => .code (rest.length + 1) [] { choice with isBroken := true }
  | some char? =>
    match char? n with
    | some c => .code 3 [c] choice
    | none => .stray 3

/-- What stands at the front of a text of a scheme. -/
def Scheme.front (scheme : Scheme) (choice : Choice) (byte : UInt8) (rest : List UInt8) :
    Front Choice :=
  let n := byte.toNat
  let c := Char.ofNat n
  let plain : Front Choice := .code 1 [c] choice
  if choice.isPassing then .code 1 [c] { choice with isPassing := !endsEscape n }
  else if c == '\x1b' then
    match rest with
    | [] => .torn
    | second :: _ =>
      if ['(', ')', '$', '.', '&'].contains (Char.ofNat second.toNat) then
        match escapeEnd scheme.hasRevisions 1 rest with
        | .torn => .torn
        | .nowhere => .stray 1
        | .after length =>
          let escape := (rest.take (length - 1)).map fun byte => Char.ofNat byte.toNat
          match scheme.chosen? choice escape with
          | some choice => .code length [] choice
          | none => .stray length
      else if scheme.hasSingleShifts && second.toNat == 'N'.toNat then
        match rest with
        | _ :: third :: _ => choice.singleFront third.toNat rest
        | _ => .torn
      else .code 1 [c] { choice with isPassing := true }
  else if scheme.hasShifts && c == '\x0f' then .code 1 [] { choice with isShifted := false }
  else if scheme.hasShifts && c == '\x0e' then .code 1 [] { choice with isShifted := true }
  else if c == '\n' then .code 1 [c] { choice with isShifted := false }
  else if n < 0x20 then plain
  else if n ≥ 0x80 then .stray 1
  else
    match if choice.isShifted then choice.second? else choice.first? with
    | none => plain
    | some set =>
      if set.isWide then
        match rest with
        | [] => .torn
        | second :: _ =>
          match set.chars? n second.toNat with
          | some chars => .code 2 chars choice
          | none => .stray 2
      else
        match set.chars? n 0 with
        | some chars => .code 1 chars choice
        | none => .stray 1

end ODataExplorer.Charset
