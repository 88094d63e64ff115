import ODataExplorer.Log.Shown
import ODataExplorer.Number.Reading
import ODataExplorer.Number.Rounded

/-!
Messages with placeholders.

A placeholder is a per cent sign, the layout that is wanted, and a letter that says how an argument
is written. Arguments are taken in order, and all of them have to be used; or they have names, and
a placeholder says which of them it takes. A message without arguments is taken as it is.
-/

namespace ODataExplorer.Log

open Text Number

/-! ## Placeholders -/

/-- A number that a placeholder gives itself, or that the next argument gives. -/
inductive Measure where
  | given (n : Nat)
  | argument
  deriving DecidableEq, Repr

/-- A placeholder as it is written. -/
structure Placeholder where
  /-- The name of the argument, where arguments have names. -/
  name? : Option String
  /-- The signs that ask for a layout. -/
  flags : List Char
  width? : Option Measure
  precision? : Option Measure
  letter : Char
  deriving DecidableEq, Repr

/-- The signs that ask for a layout. -/
def isFlag (c : Char) : Bool := c == '-' || c == '+' || c == ' ' || c == '#' || c == '0'

/-- A name up to the bracket that closes it, and what follows. Inside it, `depth` brackets are
open. -/
def bracketed? : Nat → List Char → Option (List Char × List Char)
  | _, [] => none
  | 0, ')' :: cs => some ([], cs)
  | depth + 1, ')' :: cs => (bracketed? depth cs).map fun (name, rest) => (')' :: name, rest)
  | depth, '(' :: cs => (bracketed? (depth + 1) cs).map fun (name, rest) => ('(' :: name, rest)
  | depth, c :: cs => (bracketed? depth cs).map fun (name, rest) => (c :: name, rest)

/-- A width at the front of a text, and what follows. -/
def takeMeasure (cs : List Char) : Option Measure × List Char :=
  match cs with
  | '*' :: cs => (some .argument, cs)
  | cs =>
    match cs.takeWhile isAsciiDigit with
    | [] => (none, cs)
    | digits => (some (.given (naturalOf digits)), cs.dropWhile isAsciiDigit)

/-- A precision at the front of a text, and what follows; a point alone asks for none. -/
def takePrecision (cs : List Char) : Option Measure × List Char :=
  match cs with
  | '.' :: cs =>
    let (measure?, cs) := takeMeasure cs
    (some (measure?.getD (.given 0)), cs)
  | cs => (none, cs)

/-- The placeholder after a per cent sign, and what follows it. A letter for a size may stand
before its own letter and says nothing. -/
def readPlaceholder? (cs : List Char) : Option (Placeholder × List Char) := do
  let (name?, cs) ←
    match cs with
    | '(' :: cs => (bracketed? 0 cs).map fun (name, cs) => (some (String.ofList name), cs)
    | cs => some (none, cs)
  let flags := cs.takeWhile isFlag
  let (width?, cs) := takeMeasure (cs.dropWhile isFlag)
  let (precision?, cs) := takePrecision cs
  match cs with
  | size :: letter :: cs =>
    if size == 'h' || size == 'l' || size == 'L' then
      some (⟨name?, flags, width?, precision?, letter⟩, cs)
    else some (⟨name?, flags, width?, precision?, size⟩, letter :: cs)
  | [letter] =>
    if letter == 'h' || letter == 'l' || letter == 'L' then none
    else some (⟨name?, flags, width?, precision?, letter⟩, [])
  | [] => none

/-! ## Layout -/

/-- How an argument is to be laid out. -/
structure Layout where
  flags : List Char
  width : Nat
  precision? : Option Nat

namespace Layout

def has (layout : Layout) (flag : Char) : Bool := layout.flags.contains flag

/-- Whether an unusual form is asked for: a number says its base or keeps its zeros. -/
def isAlternate (layout : Layout) : Bool := layout.has '#'

/-- The sign of a number: a plus or a blank is written only if one is asked for. -/
def sign (layout : Layout) (negative : Bool) : List Char :=
  if negative then ['-']
  else if layout.has '+' then ['+']
  else if layout.has ' ' then [' ']
  else []

/-- Brings a text to its width with blanks, on its left unless it is to stand there. -/
def pad (layout : Layout) (text : List Char) : List Char :=
  let blanks := List.replicate (layout.width - text.length) ' '
  if layout.has '-' then text ++ blanks else blanks ++ text

/-- Brings a number to its width, with zeros between its sign and its digits if they are asked
for. -/
def padNumber (layout : Layout) (sign digits : List Char) : List Char :=
  if layout.has '0' && !layout.has '-' then
    sign ++ List.replicate (layout.width - (sign.length + digits.length)) '0' ++ digits
  else layout.pad (sign ++ digits)

/-- Cuts a text to the precision and brings it to its width. -/
def text (layout : Layout) (cs : List Char) : List Char :=
  layout.pad (match layout.precision? with | some n => cs.take n | none => cs)

/-- Digits with as many zeros before them as the precision asks for. -/
def zeroed (layout : Layout) (digits : List Char) : List Char :=
  List.replicate (layout.precision?.getD 0 - digits.length) '0' ++ digits

/-- A whole number. -/
def integer (layout : Layout) (n : Int) : List Char :=
  layout.padNumber (layout.sign (n < 0)) (layout.zeroed (Double.digitChars n.natAbs))

/-- A whole number in another base; if asked for, its letter stands before the digits. -/
def inBase (layout : Layout) (base : Nat) (letter : Char) (n : Int) : List Char :=
  let marked := if layout.isAlternate then ['0', letter] else []
  let digits := layout.zeroed (Nat.toDigits base n.natAbs)
  let digits := if letter == 'X' then digits.map Char.toUpper else digits
  layout.padNumber (layout.sign (n < 0) ++ marked) digits

/-- How many places or digits a number in floating point has unless it is told. -/
def standardPrecision : Nat := 6

/-- A number in floating point, in the form of a letter. -/
def float (layout : Layout) (letter : Char) (x : Double) : List Char :=
  let precision := layout.precision?.getD standardPrecision
  let (negative, magnitude) :=
    match x with
    | .nan => (false, "nan".toList)
    | .infinite negative => (negative, "inf".toList)
    | .finite negative mantissa exponent =>
      (negative,
        if letter == 'e' || letter == 'E' then
          Double.scientificText layout.isAlternate precision mantissa exponent
        else if letter == 'f' || letter == 'F' then
          Double.placesText layout.isAlternate precision mantissa exponent
        else Double.generalText layout.isAlternate precision mantissa exponent)
  let isUpper := letter == 'E' || letter == 'F' || letter == 'G'
  layout.padNumber (layout.sign negative)
    (if isUpper then magnitude.map Char.toUpper else magnitude)

end Layout

/-! ## Arguments -/

/-- A value that is a whole number; a truth counts as one or zero. -/
def whole? : Json → Option Int
  | .bool b => some (if b then 1 else 0)
  | .int n => some n
  | _ => none

/-- A value as a number in floating point; a whole number beyond their range is none. -/
def float? : Json → Option Double
  | .float x => some x
  | value => do
    let n ← whole? value
    let x := Double.nearest (n < 0) n.natAbs 1
    if x.isFinite then some x else none

/-- A value as one character: a text of one, or a code point. -/
def char? : Json → Option Char
  | .string s =>
    match s.toList with
    | [c] => some c
    | _ => none
  | value => do
    let n ← whole? value
    if 0 ≤ n && n.toNat.isValidChar then some (Char.ofNat n.toNat) else none

/-- What an argument becomes at a placeholder. -/
def filling? (letter : Char) (layout : Layout) (argument : Json) : Option (List Char) :=
  match letter with
  | 's' => some (layout.text (plainly argument).toList)
  | 'r' => some (layout.text (shown argument).toList)
  | 'a' => some (layout.text (shownInAscii argument))
  | 'c' => (char? argument).map fun c => layout.pad [c]
  | 'd' | 'i' | 'u' =>
    match argument with
    | .float x => x.truncated?.map layout.integer
    | value => (whole? value).map layout.integer
  | 'o' => (whole? argument).map (layout.inBase 8 letter)
  | 'x' | 'X' => (whole? argument).map (layout.inBase 16 letter)
  | 'e' | 'E' | 'f' | 'F' | 'g' | 'G' => (float? argument).map (layout.float letter)
  | _ => none

/-- The arguments that are left. -/
inductive Arguments where
  | inOrder (values : List Json)
  /-- Arguments with names, and the one that the next placeholder takes. -/
  | named (members : List (String × Json)) (next? : Option Json)

namespace Arguments

/-- Arguments as they are handed over. A single object that is not empty names them. -/
def ofList : List Json → Arguments
  | [.object (member :: members)] =>
    .named (member :: members) (some (.object (member :: members)))
  | values => .inOrder values

/-- The arguments once a name is asked for, which then comes next. -/
def choose? (name : String) : Arguments → Option Arguments
  | .inOrder _ => none
  | .named members _ => (members.lookup name).map fun value => .named members (some value)

/-- Takes the next argument. -/
def next? : Arguments → Option (Json × Arguments)
  | .inOrder (value :: values) => some (value, .inOrder values)
  | .inOrder [] => none
  | .named members (some value) => some (value, .named members none)
  | .named _ none => none

/-- Whether nothing is left that has to be used; names need not be. -/
def areUsed : Arguments → Bool
  | .inOrder values => values.isEmpty
  | .named .. => true

/-- No width and no precision reaches this number. -/
def measureLimit : Nat := 0x80000000

/-- The number that a placeholder asks for, if it asks for one. -/
def measure? (measure? : Option Measure) (arguments : Arguments) :
    Option (Option Int × Arguments) :=
  match measure? with
  | none => some (none, arguments)
  | some (.given n) => if n < measureLimit then some (some n, arguments) else none
  | some .argument => do
    let (value, arguments) ← arguments.next?
    let n ← whole? value
    if n.natAbs < measureLimit then some (some n, arguments) else none

/-- Fills a placeholder. A width below zero asks for the left side. -/
def fill? (placeholder : Placeholder) (arguments : Arguments) :
    Option (List Char × Arguments) := do
  let arguments ←
    match placeholder.name? with
    | some name => arguments.choose? name
    | none => some arguments
  let (width?, arguments) ← arguments.measure? placeholder.width?
  let (precision?, arguments) ← arguments.measure? placeholder.precision?
  let (value, arguments) ← arguments.next?
  let width := width?.getD 0
  let flags := if width < 0 then '-' :: placeholder.flags else placeholder.flags
  let filling ← filling? placeholder.letter ⟨flags, width.natAbs, precision?.map Int.toNat⟩ value
  return (filling, arguments)

end Arguments

/-! ## Messages -/

/-- Fills the placeholders of a text. Each takes a character at least, so the length of the text is
fuel enough. -/
def fillUpTo? : Nat → List Char → Arguments → Option (List Char)
  | _, [], arguments => if arguments.areUsed then some [] else none
  | fuel + 1, '%' :: '%' :: cs, arguments => (fillUpTo? fuel cs arguments).map ('%' :: ·)
  | fuel + 1, '%' :: cs, arguments => do
    let (placeholder, cs) ← readPlaceholder? cs
    let (filling, arguments) ← arguments.fill? placeholder
    return filling ++ (← fillUpTo? fuel cs arguments)
  | fuel + 1, c :: cs, arguments => (fillUpTo? fuel cs arguments).map (c :: ·)
  | 0, _ :: _, _ => none

/-- The text of a message; nothing if its placeholders do not fit its arguments. -/
def messageText? (message : String) (arguments : List Json) : Option String :=
  if arguments.isEmpty then some message
  else
    let cs := message.toList
    (fillUpTo? cs.length cs (.ofList arguments)).map String.ofList

end ODataExplorer.Log
