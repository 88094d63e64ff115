import ODataExplorer.Text.Digit
import ODataExplorer.Xml.NameTable

/-!
The characters of documents, and the scanning of names and references.

A scan takes the rest of a document and gives what it read with what follows. It is `none` where
the grammar allows no continuation; the reader reports every such place alike.
-/

namespace ODataExplorer.Xml

open Text

/-- Characters that may stand in a document at all. -/
def isDocumentChar (c : Char) : Bool :=
  c == '\t' || c == '\n' || c == '\r' || (0x20 ≤ c.toNat && c != '\uFFFE' && c != '\uFFFF')

/-- White space between the parts of a tag or a declaration. -/
def isSpace (c : Char) : Bool :=
  c == ' ' || c == '\t' || c == '\n' || c == '\r'

def skipSpace (cs : List Char) : List Char := cs.dropWhile isSpace

/-- A name without a colon. -/
def scanSimpleName : List Char → Option (String × List Char)
  | c :: cs =>
    if isNameStart c then some (String.ofList (c :: cs.takeWhile isNameChar), cs.dropWhile isNameChar)
    else none
  | [] => none

/-- A name with at most one colon, which has to stand between two names. -/
def scanName (cs : List Char) : Option (String × List Char) :=
  match scanSimpleName cs with
  | some (first, ':' :: rest) =>
    (scanSimpleName rest).map fun (second, after) => (first ++ ":" ++ second, after)
  | scanned => scanned

/-- What stands after an ampersand. -/
inductive Reference where
  | char (code : Nat)
  | entity (name : String)
  deriving DecidableEq, Repr

/-- Digits up to a semicolon, at least one, and the number they write. -/
def scanCode (base : Nat) (cs : List Char) : Option (Nat × List Char) :=
  let isCodeDigit := fun c => (hexValue? c).any (· < base)
  let digits := cs.takeWhile isCodeDigit
  match digits, cs.dropWhile isCodeDigit with
  | _ :: _, ';' :: rest =>
    some ((digits.filterMap hexValue?).foldl (fun code digit => base * code + digit) 0, rest)
  | _, _ => none

/-- Reads a reference after its ampersand. -/
def scanReference : List Char → Option (Reference × List Char)
  | '#' :: 'x' :: cs => (scanCode 16 cs).map fun (code, rest) => (.char code, rest)
  | '#' :: cs => (scanCode 10 cs).map fun (code, rest) => (.char code, rest)
  | cs =>
    match scanSimpleName cs with
    | some (name, ';' :: rest) => some (.entity name, rest)
    | _ => none

/-- The character a numeric reference stands for, if a document may hold it. -/
def referencedChar? (code : Nat) : Option Char :=
  if code.isValidChar then
    let c := Char.ofNat code
    if isDocumentChar c then some c else none
  else none

/-- The entities that need no declaration. -/
def predefinedEntity? : String → Option Char
  | "lt" => some '<'
  | "gt" => some '>'
  | "amp" => some '&'
  | "quot" => some '"'
  | "apos" => some '\x27'
  | _ => none

/-- A part of an attribute value. -/
inductive ValuePart where
  | char (c : Char)
  | space
  | reference (reference : Reference)
  deriving DecidableEq, Repr

/-- The parts of a value whose text is given, up to the first violation of the grammar, and whether
that is all of them. A line end is one space whatever its spelling. The fuel bounds the number of
parts; the length of the text is enough. -/
def valuePartsUpTo : Nat → List Char → List ValuePart × Bool
  | _, [] => ([], true)
  | 0, _ :: _ => ([], false)
  | fuel + 1, '\r' :: '\n' :: cs => addTo .space (valuePartsUpTo fuel cs)
  | fuel + 1, '&' :: cs =>
    match scanReference cs with
    | some (reference, rest) => addTo (.reference reference) (valuePartsUpTo fuel rest)
    | none => ([], false)
  | fuel + 1, c :: cs =>
    if c == '<' || !isDocumentChar c then ([], false)
    else if isSpace c then addTo .space (valuePartsUpTo fuel cs)
    else addTo (.char c) (valuePartsUpTo fuel cs)
where
  addTo (part : ValuePart) : List ValuePart × Bool → List ValuePart × Bool
    | (parts, complete) => (part :: parts, complete)

/-- The parts of an attribute value up to the first violation, and whether that is all of them. -/
def valueParts (cs : List Char) : List ValuePart × Bool :=
  valuePartsUpTo cs.length cs

/-- The text up to the first `sign`, and what follows it. -/
def scanUntil (sign : Char) (cs : List Char) : Option (List Char × List Char) :=
  match cs.dropWhile (· != sign) with
  | _ :: rest => some (cs.takeWhile (· != sign), rest)
  | [] => none

/-- A comment after `<!--`: no two hyphens stand together but those of the end. -/
def skipComment : List Char → Option (List Char)
  | '-' :: '-' :: '>' :: rest => some rest
  | '-' :: '-' :: _ => none
  | c :: cs => if isDocumentChar c then skipComment cs else none
  | [] => none

/-- A section of character data after its opening, up to the closing brackets. -/
def skipCharacterData : List Char → Option (List Char)
  | ']' :: ']' :: '>' :: rest => some rest
  | c :: cs => if isDocumentChar c then skipCharacterData cs else none
  | [] => none

/-- The text up to `?>`, and what follows. -/
def scanInstruction : List Char → Option (List Char × List Char)
  | '?' :: '>' :: rest => some ([], rest)
  | c :: cs =>
    if isDocumentChar c then (scanInstruction cs).map fun (text, rest) => (c :: text, rest) else none
  | [] => none

/-- A processing instruction or the XML declaration. -/
inductive Instruction where
  | processing
  | declaration (content : List Char)

/-- Reads an instruction after `<?`. The target `xml` belongs to the declaration, and no other
spelling of that word may be a target. -/
def scanProcessing (cs : List Char) : Option (Instruction × List Char) :=
  match scanSimpleName cs with
  | none => none
  | some (target, after) =>
    let begins :=
      match after with
      | '?' :: '>' :: _ => true
      | c :: _ => isSpace c
      | [] => false
    if !begins then none
    else
      match scanInstruction after with
      | none => none
      | some (content, rest) =>
        if target == "xml" then some (.declaration content, rest)
        else if target.toLower == "xml" then none
        else some (.processing, rest)

end ODataExplorer.Xml
