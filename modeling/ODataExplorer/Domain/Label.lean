import ODataExplorer.Domain.Composition
import ODataExplorer.Domain.LetterTable
import ODataExplorer.Domain.Punycode
import ODataExplorer.Domain.ScriptTable
import ODataExplorer.Text.Quoted

/-!
Labels: the parts of a domain name between full stops.

A label is a text in composed form, of characters that may stand in any label or that may stand
where they do, and in an order that can be written in one direction. It has two spellings, the text
and its ASCII form, and both have to be valid labels.
-/

namespace ODataExplorer.Domain

open Text

/-- Why a name is no domain name. Places in labels count from one. -/
inductive Fault where
  | emptyDomain
  | emptyLabel
  | tooLongLabel
  | tooLongDomain
  | notComposed
  | hyphenPair
  | outerHyphen
  | leadingMark
  | forbidden (c : Char) (place : Nat) (label : List Char)
  /-- A joiner without letters to join. -/
  | joiner (c : Char) (place : Nat) (label : List Char)
  /-- A sign that belongs beside others. -/
  | context (c : Char) (place : Nat) (label : List Char)
  | unknownDirection (place : Nat) (label : List Char)
  | firstDirection (label : List Char)
  | direction (place : Nat) (rightToLeft : Bool)
  | mixedDigits
  | lastDirection
  /-- An ASCII form with nothing in it. -/
  | nothingEncoded
  /-- An ASCII form that ends in a hyphen. -/
  | encodedHyphen
  | notEncoded
  deriving DecidableEq, Repr

/-- The name of the class of exceptions that a fault is raised as. -/
def Fault.className : Fault → String
  | .forbidden .. => "InvalidCodepoint"
  | .context .. => "InvalidCodepointContext"
  | .unknownDirection .. | .firstDirection _ | .direction .. | .mixedDigits | .lastDirection =>
    "IDNABidiError"
  | _ => "IDNAError"

/-- A code point in four digits or more. -/
def codePoint (c : Char) : String :=
  let digits := Nat.toDigits 16 c.toNat
  "U+" ++ String.ofList (List.replicate (4 - digits.length) '0' ++ digits.map Char.toUpper)

def Fault.message : Fault → String
  | .emptyDomain => "Empty domain"
  | .emptyLabel => "Empty Label"
  | .tooLongLabel => "Label too long"
  | .tooLongDomain => "Domain too long"
  | .notComposed => "Label must be in Normalization Form C"
  | .hyphenPair => "Label has disallowed hyphens in 3rd and 4th position"
  | .outerHyphen => "Label must not start or end with a hyphen"
  | .leadingMark => "Label begins with an illegal combining character"
  | .forbidden c place label =>
    s!"Codepoint {codePoint c} at position {place} of {shown label} not allowed"
  | .joiner c place label =>
    s!"Unknown codepoint adjacent to joiner {codePoint c} at position {place} in {shown label}"
  | .context c place label =>
    s!"Codepoint {codePoint c} not allowed at position {place} in {shown label}"
  | .unknownDirection place label =>
    s!"Unknown directionality in label {shown label} at position {place}"
  | .firstDirection label =>
    s!"First codepoint in label {shown label} must be directionality L, R or AL"
  | .direction place true =>
    s!"Invalid direction for codepoint at position {place} in a right-to-left label"
  | .direction place false =>
    s!"Invalid direction for codepoint at position {place} in a left-to-right label"
  | .mixedDigits => "Can not mix numeral types in a right-to-left label"
  | .lastDirection => "Label ends with illegal codepoint directionality"
  | .nothingEncoded => "Malformed A-label, no Punycode eligible content found"
  | .encodedHyphen => "A-label must not end with a hyphen"
  | .notEncoded => "Invalid A-label"
where
  shown (label : List Char) : String := quoted (String.ofList label)

/-! ## Characters -/

/-- A character of a known direction that may stand anywhere in a label. -/
def isLetter (c : Char) : Bool :=
  letterRuns.any fun (low, high, step) =>
    low ≤ c.toNat && c.toNat ≤ high && (c.toNat - low) % step == 0

def isMark (c : Char) : Bool := nonspacingMarks.holds c || spacingMarks.holds c

/-! ## Signs that need others beside them -/

def nonJoiner : Char := '\u200C'

def joiner : Char := '\u200D'

/-- The combining class of the signs that take the vowel from a letter. -/
def vowelKiller : Nat := 9

/-- Whether the nearest character that joining does not look through is of a class. -/
def meets (joins : CharClass) (cs : List Char) : Bool :=
  (cs.dropWhile fun c => nonspacingMarks.holds c || joinThrough.holds c).head?.any joins.holds

/-- Whether a joiner may stand between two texts, the first of which is given from its end. It may
not after a character whose class is not known. -/
def joinerFits (c : Char) (before after : List Char) : Bool :=
  !before.head?.any laterLetters.holds &&
    (before.head?.any (combiningClass · == vowelKiller) ||
      (c == nonJoiner && meets joinForward before && meets joinBackward after))

def isArabicIndicDigit (c : Char) : Bool := 0x660 ≤ c.toNat && c.toNat ≤ 0x669

def isExtendedArabicDigit (c : Char) : Bool := 0x6F0 ≤ c.toNat && c.toNat ≤ 0x6F9

/-- Whether a sign may stand between two texts, the first of which is given from its end; `none` for
a character that is no such sign. -/
def signFits? (c : Char) (before after : List Char) : Option Bool :=
  if c == '·' then some (before.head? == some 'l' && after.head? == some 'l')
  else if c == '͵' then some (after.head?.any greek.holds)
  else if c == '׳' || c == '״' then some (before.head?.any hebrew.holds)
  else if c == '・' then some ((before ++ after).any fun c => c != '・' && japanese.holds c)
  else if isArabicIndicDigit c then some (!(before ++ after).any isExtendedArabicDigit)
  else if isExtendedArabicDigit c then some (!(before ++ after).any isArabicIndicDigit)
  else none

/-- Checks the characters of a label; `before` are those that were checked, last first. -/
def checkCharacters (label before : List Char) : List Char → Except Fault Unit
  | [] => .ok ()
  | c :: cs =>
    let place := before.length + 1
    if isLetter c || laterLetters.holds c then checkCharacters label (c :: before) cs
    else if c == nonJoiner || c == joiner then
      if joinerFits c before cs then checkCharacters label (c :: before) cs
      else .error (.joiner c place label)
    else
      match signFits? c before cs with
      | some true => checkCharacters label (c :: before) cs
      | some false => .error (.context c place label)
      | none => .error (.forbidden c place label)

/-! ## Directions -/

inductive Direction where
  | left
  | right
  | arabicNumber
  | europeanNumber
  | neutral
  | mark
  deriving DecidableEq, Repr

/-- The direction of a character that labels may hold. -/
def directionOf (c : Char) : Direction :=
  if rightToLeftLetters.holds c then .right
  else if arabicDigits.holds c then .arabicNumber
  else if europeanDigits.holds c then .europeanNumber
  else if undirected.holds c then .neutral
  else if nonspacingMarks.holds c && !directedMarks.holds c then .mark
  else .left

/-- Whether a label with characters of a direction has to follow the rules for directions. -/
def Direction.turns : Direction → Bool
  | .right | .arabicNumber => true
  | _ => false

/-- Whether a direction has a place in a label of its own direction. -/
def Direction.fits (rightToLeft : Bool) : Direction → Bool
  | .left => !rightToLeft
  | .right | .arabicNumber => rightToLeft
  | _ => true

/-- Whether the last character of a label that is no mark may have a direction. -/
def Direction.ends : Direction → Bool
  | .left | .right | .arabicNumber | .europeanNumber => true
  | _ => false

/-- Checks the characters of a label that is written in one direction. `number?` is the kind of the
digits so far, `ending` whether the label may end here. -/
def checkDirectionsFrom (rightToLeft : Bool) (place : Nat) (number? : Option Direction)
    (ending : Bool) : List Direction → Except Fault Unit
  | [] => if ending then .ok () else .error .lastDirection
  | direction :: rest => do
    if !direction.fits rightToLeft then throw (.direction place rightToLeft)
    let isNumber := direction == .arabicNumber || direction == .europeanNumber
    if rightToLeft && isNumber && number?.any (· != direction) then throw .mixedDigits
    let ending := if direction == .mark then ending else direction.ends
    let number? := if isNumber then some direction else number?
    checkDirectionsFrom rightToLeft (place + 1) number? ending rest

/-- Checks the directions of a label: that all are known and, if it has letters or digits from right
to left, that they follow the rules. -/
def checkDirections (label : List Char) : Except Fault Unit :=
  match label.findIdx? laterLetters.holds with
  | some index => .error (.unknownDirection (index + 1) label)
  | none =>
    let directions := label.map directionOf
    if !directions.any Direction.turns then .ok ()
    else
      match directions.head? with
      | some .right => checkDirectionsFrom true 1 none false directions
      | some .left => checkDirectionsFrom false 1 none false directions
      | _ => .error (.firstDirection label)

/-! ## Labels -/

/-- Checks the hyphens of a label. A pair in its middle is kept for ASCII forms. -/
def checkHyphens (label : List Char) : Except Fault Unit :=
  if (label.drop 2).take 2 == ['-', '-'] then .error .hyphenPair
  else if label.head? == some '-' || label.getLast? == some '-' then .error .outerHyphen
  else .ok ()

/-- Checks a label. -/
def checkLabel (label : List Char) : Except Fault Unit := do
  if label.isEmpty then throw .emptyLabel
  if !isComposed label then throw .notComposed
  checkHyphens label
  if label.head?.any isMark then throw .leadingMark
  checkCharacters label [] label
  checkDirections label

/-- What an ASCII form begins with. -/
def encodedMark : List Char := "xn--".toList

/-- The text of an ASCII label in lower case. -/
def plainText (label : List Char) : Except Fault (List Char) := do
  if !encodedMark.isPrefixOf label then
    checkLabel label
    return label
  let encoded := label.drop encodedMark.length
  if encoded.isEmpty then throw .nothingEncoded
  if encoded.getLast? == some '-' then throw .encodedHyphen
  match Punycode.decode? encoded with
  | none => throw .notEncoded
  | some text =>
    checkLabel text
    return text

/-- The longest ASCII form of a label. -/
def longestLabel : Nat := 63

/-- The ASCII form of a label in lower case. -/
def asciiForm (label : List Char) : Except Fault (List Char) := do
  let form ←
    if label.all isAscii then do
      let _ ← plainText label
      pure label
    else do
      checkLabel label
      pure (encodedMark ++ Punycode.encode label)
  if form.length > longestLabel then throw .tooLongLabel
  return form

end ODataExplorer.Domain
