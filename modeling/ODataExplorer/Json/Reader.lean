import ODataExplorer.Json.Value
import ODataExplorer.Nesting
import ODataExplorer.Number.Reading
import ODataExplorer.Text.Split

/-!
Reading JSON.

The grammar is that of JSON with three more words, `NaN`, `Infinity` and `-Infinity`. A text that
is not JSON is refused at its first fault, and the fault is reported with the place where it was
noticed.

A reader goes down its stack with every array and object, and gives up where there is no room for
the next one (`readWithin`); `read` is the reader with all the room it takes. An escape may write
half of a pair, which stays as it is in a value; in the name of a member a sign stands for it.
-/

namespace ODataExplorer.Json

open Text Number

/-- What a text lacks to be JSON. -/
inductive Fault where
  | byteOrderMark
  | value
  | extraData
  | propertyName
  | colon
  | comma
  | unterminatedString
  | controlCharacter
  | escape
  | unicodeEscape
  deriving DecidableEq, Repr

def Fault.message : Fault → String
  | .byteOrderMark => "Unexpected UTF-8 BOM (decode using utf-8-sig)"
  | .value => "Expecting value"
  | .extraData => "Extra data"
  | .propertyName => "Expecting property name enclosed in double quotes"
  | .colon => "Expecting ':' delimiter"
  | .comma => "Expecting ',' delimiter"
  | .unterminatedString => "Unterminated string starting at"
  | .controlCharacter => "Invalid control character at"
  | .escape => "Invalid \\escape"
  | .unicodeEscape => "Invalid \\uXXXX escape"

/-- A place in a text: how many characters stand before it, its line and its column, these two
counted from one. -/
structure Position where
  offset : Nat
  line : Nat
  column : Nat
  deriving DecidableEq, Repr

/-- The place after the first `offset` characters. -/
def Position.at (text : List Char) (offset : Nat) : Position :=
  let before := text.take offset
  { offset, line := before.count '\n' + 1, column := (afterLast '\n' before).length + 1 }

/-- What holds other values. -/
inductive Container where
  | array
  | object
  deriving DecidableEq, Repr

def Container.name : Container → String
  | .array => "array"
  | .object => "object"

/-- Why a text cannot be read. -/
inductive ReadError where
  | malformed (fault : Fault) (position : Position)
  | integer (fault : IntegerFault)
  /-- There is no room for an array or an object. -/
  | tooDeep (container : Container)
  deriving DecidableEq, Repr

def ReadError.message : ReadError → String
  | .malformed fault position =>
    s!"{fault.message}: line {position.line} column {position.column} (char {position.offset})"
  | .integer fault => fault.message
  | .tooDeep container =>
    "maximum recursion depth exceeded while decoding a JSON " ++ container.name ++
      " from a unicode string"

/-- A fault while reading, with the number of characters not yet passed. -/
inductive Stop where
  | fault (fault : Fault) (remaining : Nat)
  | integer (fault : IntegerFault)
  | tooDeep (container : Container)

/-- The characters that may stand between tokens. -/
def isSpace (c : Char) : Bool :=
  c == ' ' || c == '\t' || c == '\n' || c == '\r'

def skipSpace (cs : List Char) : List Char := cs.dropWhile isSpace

/-- The character a short escape stands for. -/
def shortEscape? : Char → Option Char
  | '"' => some '"'
  | '\\' => some '\\'
  | '/' => some '/'
  | 'b' => some '\x08'
  | 'f' => some '\x0c'
  | 'n' => some '\n'
  | 'r' => some '\r'
  | 't' => some '\t'
  | _ => none

/-- The number four hexadecimal digits write. -/
def codeUnit? (a b c d : Char) : Option Nat := do
  let a ← hexValue? a
  let b ← hexValue? b
  let c ← hexValue? c
  let d ← hexValue? d
  return ((a * 16 + b) * 16 + c) * 16 + d

def isHighSurrogate (unit : Nat) : Bool := 0xD800 ≤ unit && unit < 0xDC00

def isLowSurrogate (unit : Nat) : Bool := 0xDC00 ≤ unit && unit < 0xE000

/-- The character a pair of surrogates writes. -/
def joinSurrogates (high low : Nat) : Char :=
  Char.ofNat (0x10000 + (high - 0xD800) * 0x400 + (low - 0xDC00))

/-- Reads a string after its opening quote. `opening` is the number of characters from that quote
on, `done` what was read so far, last first. -/
def readString (opening : Nat) (done : List CodePoint) :
    List Char → Except Stop (Wording × List Char)
  | [] => .error (.fault .unterminatedString opening)
  | '"' :: cs => .ok (.ofPoints [] done.reverse, cs)
  | '\\' :: [] => .error (.fault .unterminatedString opening)
  | '\\' :: 'u' :: a :: b :: c :: d :: '\\' :: 'u' :: e :: f :: g :: h :: next :: cs =>
    match codeUnit? a b c d with
    | none => .error (.fault .unicodeEscape (cs.length + 12))
    | some high =>
      if isHighSurrogate high then
        match codeUnit? e f g h with
        | none => .error (.fault .unicodeEscape (cs.length + 6))
        | some low =>
          if isLowSurrogate low then
            readString opening (.char (joinSurrogates high low) :: done) (next :: cs)
          else
            readString opening (.ofUnit high :: done)
              ('\\' :: 'u' :: e :: f :: g :: h :: next :: cs)
      else
        readString opening (.ofUnit high :: done)
          ('\\' :: 'u' :: e :: f :: g :: h :: next :: cs)
  | '\\' :: 'u' :: a :: b :: c :: d :: next :: cs =>
    match codeUnit? a b c d with
    | none => .error (.fault .unicodeEscape (cs.length + 6))
    | some unit => readString opening (.ofUnit unit :: done) (next :: cs)
  | '\\' :: 'u' :: cs => .error (.fault .unicodeEscape (cs.length + 1))
  | '\\' :: c :: cs =>
    match shortEscape? c with
    | none => .error (.fault .escape (cs.length + 2))
    | some meant => readString opening (.char meant :: done) cs
  | c :: cs =>
    if c.toNat < 0x20 then .error (.fault .controlCharacter (cs.length + 1))
    else readString opening (.char c :: done) cs

/-- The digits after a point, when at least one stands there. -/
def fractionPart : List Char → List Char × List Char
  | '.' :: c :: cs =>
    if isAsciiDigit c then ((c :: cs).takeWhile isAsciiDigit, (c :: cs).dropWhile isAsciiDigit)
    else ([], '.' :: c :: cs)
  | cs => ([], cs)

/-- The exponent, when the mark is followed by a digit; otherwise the mark is not part of the
number. -/
def exponentPart (cs : List Char) : Option Int × List Char :=
  match cs with
  | mark :: after =>
    if mark == 'e' || mark == 'E' then
      let (negative, unsigned) := takeSign after
      let digits := unsigned.takeWhile isAsciiDigit
      if digits.isEmpty then (none, cs)
      else
        let magnitude : Int := naturalOf digits
        (some (if negative then -magnitude else magnitude), unsigned.dropWhile isAsciiDigit)
    else (none, cs)
  | [] => (none, cs)

/-- The digits before the point: a zero stands alone. -/
def wholePart : List Char → List Char × List Char
  | '0' :: cs => (['0'], cs)
  | cs => (cs.takeWhile isAsciiDigit, cs.dropWhile isAsciiDigit)

/-- Reads a number. With a fraction or an exponent it is one in floating point. -/
def readNumber (cs : List Char) : Except Stop (Json × List Char) :=
  let (negative, unsigned) :=
    match cs with
    | '-' :: rest => (true, rest)
    | rest => (false, rest)
  let (whole, afterWhole) := wholePart unsigned
  if whole.isEmpty then .error (.fault .value cs.length)
  else
    let (fraction, afterFraction) := fractionPart afterWhole
    let (exponent?, rest) := exponentPart afterFraction
    if fraction.isEmpty && exponent?.isNone then
      if whole.length > maxDigits then .error (.integer (.tooManyDigits whole.length))
      else
        let magnitude : Int := naturalOf whole
        .ok (.int (if negative then -magnitude else magnitude), rest)
    else
      let exponent := exponent?.getD 0 - fraction.length
      .ok (.float (Double.ofDecimal negative (naturalOf (whole ++ fraction)) exponent), rest)

/-- The words that are values. -/
def words : List (List Char × Json) := [
  ("null".toList, .null),
  ("true".toList, .bool true),
  ("false".toList, .bool false),
  ("NaN".toList, .float .nan),
  ("Infinity".toList, .float (.infinite false)),
  ("-Infinity".toList, .float (.infinite true))]

/-- Reads a word or a number. -/
def readScalar (cs : List Char) : Except Stop (Json × List Char) :=
  match words.find? fun (word, _) => word.isPrefixOf cs with
  | some (word, value) => .ok (value, cs.drop word.length)
  | none => readNumber cs

mutual

/-- Reads a value in a room. The fuel bounds the number of values and separators; the length of the
text is enough, since each of them takes a character. -/
def readValue : Nat → Room → List Char → Except Stop (Json × List Char)
  | 0, _, cs => .error (.fault .value cs.length)
  | _ + 1, _, '"' :: cs => do
    let (text, rest) ← readString (cs.length + 1) [] cs
    return (.ofWording text, rest)
  | fuel + 1, room, '[' :: cs =>
    match room.inside? with
    | none => .error (.tooDeep .array)
    | some room =>
      match skipSpace cs with
      | ']' :: rest => .ok (.array [], rest)
      | cs => readItems fuel room [] cs
  | fuel + 1, room, '\x7b' :: cs =>
    match room.inside? with
    | none => .error (.tooDeep .object)
    | some room =>
      match skipSpace cs with
      | '\x7d' :: rest => .ok (.object [], rest)
      | cs => readMembers fuel room [] cs
  | _ + 1, _, cs => readScalar cs

/-- Reads the items of an array from the first one on, in the room inside it; `done` holds the
earlier ones, last first. -/
def readItems : Nat → Room → List Json → List Char → Except Stop (Json × List Char)
  | 0, _, _, cs => .error (.fault .value cs.length)
  | fuel + 1, room, done, cs => do
    let (item, rest) ← readValue fuel room cs
    match skipSpace rest with
    | ']' :: rest => return (.array (item :: done).reverse, rest)
    | ',' :: rest => readItems fuel room (item :: done) (skipSpace rest)
    | rest => .error (.fault .comma rest.length)

/-- Reads the members of an object from the first name on, in the room inside it. -/
def readMembers : Nat → Room → List (String × Json) → List Char → Except Stop (Json × List Char)
  | 0, _, _, cs => .error (.fault .value cs.length)
  | fuel + 1, room, done, '"' :: cs => do
    let (name, rest) ← readString (cs.length + 1) [] cs
    match skipSpace rest with
    | ':' :: rest =>
      let (value, rest) ← readValue fuel room (skipSpace rest)
      match skipSpace rest with
      | '\x7d' :: rest => return (ofMembers ((name.shown, value) :: done).reverse, rest)
      | ',' :: rest => readMembers fuel room ((name.shown, value) :: done) (skipSpace rest)
      | rest => .error (.fault .comma rest.length)
    | rest => .error (.fault .colon rest.length)
  | _ + 1, _, _, cs => .error (.fault .propertyName cs.length)

end

/-- Reads a whole text in a room: one value, with nothing but space around it. -/
def readDocument (room : Room) (cs : List Char) : Except Stop Json :=
  match cs with
  | '\uFEFF' :: _ => .error (.fault .byteOrderMark cs.length)
  | _ => do
    let (value, rest) ← readValue (2 * cs.length + 1) room (skipSpace cs)
    match skipSpace rest with
    | [] => return value
    | rest => .error (.fault .extraData rest.length)

/-- The value a text writes, if there is room for it. -/
def readWithin (room : Room) (text : String) : Except ReadError Json :=
  let cs := text.toList
  match readDocument room cs with
  | .ok value => .ok value
  | .error (.fault fault remaining) =>
    .error (.malformed fault (Position.at cs (cs.length - remaining)))
  | .error (.integer fault) => .error (.integer fault)
  | .error (.tooDeep container) => .error (.tooDeep container)

/-- The value a text writes. -/
def read (text : String) : Except ReadError Json := readWithin .unbounded text

/-- Where reading a text gives up for want of room, if it does. -/
def overflow? (room : Room) (text : String) : Option Container :=
  match readWithin room text with
  | .error (.tooDeep container) => some container
  | _ => none

end ODataExplorer.Json
