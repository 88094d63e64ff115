import ODataExplorer.Number.Reading
import ODataExplorer.Text.Split
import ODataExplorer.Validation.Complaint

/-!
Reading fields.

Values are read leniently: an integer may come as a truth value, as a number without a fraction or
as a text, a truth value as a number or as one of several words. Texts and lists are taken as they
are and never made from anything else.

Two kinds of fields are texts. The content of a document keeps the halves of pairs that escapes may
leave in it (`wording`), since it depends on them whether the document can be read. Every other text
is one of Unicode scalars, with a sign in the place of each half (`text`): what becomes of a half in
such a field, which can be held until it has to be written, is not told here.
-/

namespace ODataExplorer.Validation

open Text

def wording : Json → Checked Wording
  | .string s => .ok (.text s)
  | .halved broken => .ok (.halved broken)
  | _ => refuse .text

def text (value : Json) : Checked String := (wording value).map Wording.shown

/-- A value, or nothing for null. -/
def orNull {α : Type} (read : Json → Checked α) : Json → Checked (Option α)
  | .null => .ok none
  | value => (read value).map some

/-- The items of a list, the first of which stands at index `i`. -/
def readItems {α : Type} (read : Json → Checked α) (i : Nat) : List Json → Checked (List α)
  | [] => .ok []
  | item :: rest =>
    match within (.index i) (read item), readItems read (i + 1) rest with
    | .ok a, .ok others => .ok (a :: others)
    | first, others => .error (complaints first ++ complaints others)

/-- A list of texts. -/
def texts : Json → Checked (List String)
  | .array items => readItems text 0 items
  | _ => refuse .list

/-! ## Integers -/

/-- The bound of numbers in 64 bits. -/
def wordBound : Int := 0x8000000000000000

/-- The longest text that is read as an integer. -/
def longestInteger : Nat := 4300

/-- White space around an integer in a text. -/
def isWhiteSpace (c : Char) : Bool :=
  isBlank c && !(28 ≤ c.toNat && c.toNat ≤ 31)

/-- ASCII digits, with single underscores between them. -/
def groupedDigits? : List Char → Option (List Nat)
  | [c] => (asciiDigitValue? c).map ([·])
  | c :: '_' :: rest => do
    let digit ← asciiDigitValue? c
    return digit :: (← groupedDigits? rest)
  | c :: rest => do
    let digit ← asciiDigitValue? c
    return digit :: (← groupedDigits? rest)
  | [] => none

/-- Digits that may be followed by a point and zeros. -/
def wholeDigits? (cs : List Char) : Option (List Nat) :=
  match cut? '.' cs with
  | none => groupedDigits? cs
  | some (whole, fraction) =>
    if fraction.isEmpty || !fraction.all (· == '0') then none else groupedDigits? whole

/-- The integer a text writes. -/
def integerOfText (s : String) : Checked Int :=
  let cs := trimWhile isWhiteSpace s.toList
  if cs.length > longestInteger then refuse .integerSize
  else
    let (negative, unsigned) := Number.takeSign cs
    match wholeDigits? unsigned with
    | some digits =>
      let magnitude : Int := Number.ofDigits digits
      .ok (if negative then -magnitude else magnitude)
    | none => refuse .integerText

/-- The integer a number in floating point is. -/
def integerOfDouble (x : Double) : Checked Int :=
  if !x.isFinite then refuse .notFinite
  else
    match x.toInt? with
    | none => refuse .fraction
    | some n => if -wordBound < n && n < wordBound then .ok n else refuse .integerSize

def integer : Json → Checked Int
  | .bool b => .ok (if b then 1 else 0)
  | .int n => .ok n
  | .float x => integerOfDouble x
  | .string s => integerOfText s
  | .halved _ => refuse .integerText
  | _ => refuse .integer

/-! ## Truth values -/

/-- The words for a truth value, in lower case. -/
def truthWords : List (String × Bool) := [
  ("0", false), ("off", false), ("f", false), ("false", false), ("n", false), ("no", false),
  ("1", true), ("on", true), ("t", true), ("true", true), ("y", true), ("yes", true)]

/-- The truth value an integer of 64 bits stands for. -/
def truthOfInteger (n : Int) : Checked Bool :=
  if n == 0 then .ok false else if n == 1 then .ok true else refuse .truthText

def truth : Json → Checked Bool
  | .bool b => .ok b
  | .int n => if -wordBound ≤ n && n < wordBound then truthOfInteger n else refuse .truth
  | .float x =>
    match integerOfDouble x with
    | .ok n => truthOfInteger n
    | .error _ => refuse .truth
  | .string s =>
    match truthWords.lookup (asciiLowerText s) with
    | some b => .ok b
    | none => refuse .truthText
  | .halved _ => refuse .truthText
  | _ => refuse .truth

/-! ## Choices and fields -/

/-- One of several words. -/
def choice {α : Type} (words : List (String × α)) : Json → Checked α
  | .string s =>
    match words.lookup s with
    | some a => .ok a
    | none => refuse .choice
  | _ => refuse .choice

/-- A field that has to be there. -/
def required {α : Type} (name : String) (read : Json → Checked α)
    (members : List (String × Json)) : Checked α :=
  within (.field name)
    (match members.lookup name with
    | some value => read value
    | none => refuse .missing)

/-- A field that may be absent. -/
def optional {α : Type} (name : String) (absent : α) (read : Json → Checked α)
    (members : List (String × Json)) : Checked α :=
  match members.lookup name with
  | some value => within (.field name) (read value)
  | none => .ok absent

/-- Reads the members of an object; `otherwise` is what is wrong with any other value. -/
def object {α : Type} (otherwise : Misfit) (read : List (String × Json) → Checked α) :
    Json → Checked α
  | .object members => read members
  | _ => refuse otherwise

end ODataExplorer.Validation
