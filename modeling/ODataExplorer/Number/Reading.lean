import ODataExplorer.Number.Double
import ODataExplorer.Text.Blank
import ODataExplorer.Text.Case
import ODataExplorer.Text.Quoted

/-!
Reading numbers from texts people write.

Blanks may surround a number, digits of every script count, and a single underscore may stand
between two digits. An integer has at most 4300 digits.
-/

namespace ODataExplorer.Number

open Text

/-- The most digits an integer may have. -/
def maxDigits : Nat := 4300

/-- Why a text is not an integer. -/
inductive IntegerFault where
  | notAnInteger (text : String)
  | tooManyDigits (count : Nat)
  deriving DecidableEq, Repr

/-- The longest part of a text that a message shows. -/
def shownInMessage : Nat := 200

def IntegerFault.message : IntegerFault → String
  | .notAnInteger text =>
    "invalid literal for int() with base 10: " ++
      String.ofList ((quoted text).toList.take shownInMessage)
  | .tooManyDigits count =>
    s!"Exceeds the limit ({maxDigits} digits) for integer string conversion: value has {count} " ++
      "digits; use sys.set_int_max_str_digits() to increase the limit"

/-- A sign and what follows it; without a sign the number is positive. -/
def takeSign : List Char → Bool × List Char
  | '-' :: cs => (true, cs)
  | '+' :: cs => (false, cs)
  | cs => (false, cs)

/-- The leading digits of a text and what follows them. An underscore counts as part of the run
only between two digits; `none` reports one that stands elsewhere. -/
def digitRun : List Char → Option (List Nat × List Char)
  | [] => some ([], [])
  | c :: '_' :: rest =>
    match decimalValue? c with
    | none => some ([], c :: '_' :: rest)
    | some digit =>
      match digitRun rest with
      | none | some ([], _) => none
      | some (digits, after) => some (digit :: digits, after)
  | c :: cs =>
    match decimalValue? c with
    | none => some ([], c :: cs)
    | some digit => (digitRun cs).map fun (digits, after) => (digit :: digits, after)

/-- The number a list of decimal digits writes, highest first. -/
def ofDigits (digits : List Nat) : Nat :=
  digits.foldl (fun value digit => 10 * value + digit) 0

/-- The number a run of ASCII digits writes. -/
def naturalOf (digits : List Char) : Nat :=
  ofDigits (digits.filterMap asciiDigitValue?)

/-- The integer a text writes. -/
def readInteger (s : String) : Except IntegerFault Int :=
  let (negative, unsigned) := takeSign (trimWhile isBlank s.toList)
  match digitRun unsigned with
  | none | some ([], _) => .error (.notAnInteger s)
  | some (digits, after) =>
    if digits.length > maxDigits then .error (.tooManyDigits digits.length)
    else if !after.isEmpty then .error (.notAnInteger s)
    else
      let magnitude : Int := ofDigits digits
      .ok (if negative then -magnitude else magnitude)

/-- The exponent part of a number, if the text has one; nothing else may follow it. -/
def exponentPart? : List Char → Option Int
  | [] => some 0
  | c :: cs =>
    if c == 'e' || c == 'E' then
      let (negative, unsigned) := takeSign cs
      match digitRun unsigned with
      | some (digits@(_ :: _), []) =>
        let magnitude : Int := ofDigits digits
        some (if negative then -magnitude else magnitude)
      | _ => none
    else none

/-- The number a text writes: digits with or without a point and an exponent, or one of the words
for infinity and for no number. -/
def readDouble? (s : String) : Option Double :=
  let (negative, unsigned) := takeSign (trimWhile isBlank s.toList)
  let word := String.ofList (unsigned.map asciiLower)
  if word == "inf" || word == "infinity" then some (.infinite negative)
  else if word == "nan" then some .nan
  else
    match digitRun unsigned with
    | none => none
    | some (whole, after) =>
      let fraction? :=
        match after with
        | '.' :: rest => digitRun rest
        | rest => some ([], rest)
      match fraction? with
      | none => none
      | some (fraction, rest) =>
        let digits := whole ++ fraction
        if digits.isEmpty then none
        else
          (exponentPart? rest).map fun exponent =>
            Double.ofDecimal negative (ofDigits digits) (exponent - fraction.length)

end ODataExplorer.Number
