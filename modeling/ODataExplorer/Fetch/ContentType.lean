import ODataExplorer.Charset.Basic
import ODataExplorer.Number.Reading

/-!
Content types.

A content type is a type and parameters after semicolons. The value of a parameter may stand in
quotes; it may also come in numbered segments, or with the octets outside ASCII written in
hexadecimal digits and the character set of these before it. A value that is there as a whole goes
before one in segments.

Not every content type can be read. The segments of a parameter have to stand in an order, whichever
parameter it is; their numbers have to be numbers; and no name of a character set may hold a zero.
-/

namespace ODataExplorer.Fetch

open Text

/-- Why a content type cannot be read. -/
inductive ParameterFault where
  /-- The number of a segment is none. -/
  | number (fault : Number.IntegerFault)
  /-- A parameter has segments with numbers and segments without, and comparing two of them fails;
  `numbered` tells whether the first one has a number. -/
  | unordered (numbered : Bool)
  /-- There is a zero in the name of a character set. -/
  | zero
  /-- The reader of a character set fails on a value. -/
  | unread (charset : String) (refusal : Charset.Refusal)
  deriving DecidableEq, Repr

/-- The name of the class of exceptions that a fault is raised as. -/
def ParameterFault.className : ParameterFault → String
  | .number _ | .zero => "ValueError"
  | .unordered _ => "TypeError"
  | .unread _ refusal => refusal.className

def ParameterFault.message : ParameterFault → String
  | .number fault => fault.message
  | .unordered true => "'<' not supported between instances of 'NoneType' and 'int'"
  | .unordered false => "'<' not supported between instances of 'int' and 'NoneType'"
  | .zero => "embedded null character"
  | .unread charset refusal => refusal.message charset

/-! ## Parameters -/

/-- The texts of the parameters of a content type: the pieces between semicolons outside quotes.
`insideQuotes` tells whether a quote is open. -/
def parameters (insideQuotes : Bool) : List Char → List (List Char)
  | [] => [[]]
  | '\\' :: '"' :: cs => addTo ['\\', '"'] (parameters insideQuotes cs)
  | '"' :: cs => addTo ['"'] (parameters (!insideQuotes) cs)
  | ';' :: cs =>
    if insideQuotes then addTo [';'] (parameters insideQuotes cs)
    else [] :: parameters false cs
  | c :: cs => addTo [c] (parameters insideQuotes cs)
where
  addTo (front : List Char) : List (List Char) → List (List Char)
    | piece :: rest => (front ++ piece) :: rest
    | [] => [front]

/-- A text with every occurrence of a word replaced. -/
def replaced (word new cs : List Char) : List Char := joinWith new (wordPieces word cs)

/-- A value without the quotes or brackets around it. In quotes a backslash stands before a
backslash or a quote. -/
def unquote (cs : List Char) : List Char :=
  let inner := (cs.drop 1).dropLast
  if cs.length ≤ 1 then cs
  else if cs.head? == some '"' && endsWith ['"'] cs then
    replaced ['\\', '"'] ['"'] (replaced ['\\', '\\'] ['\\'] inner)
  else if cs.head? == some '<' && endsWith ['>'] cs then inner
  else cs

/-- A parameter: its name, and its value without quotes. -/
structure Parameter where
  name : List Char
  value : List Char
  deriving DecidableEq, Repr

/-- The parameter that a text writes. The name of one that has a value is in lower case. -/
def Parameter.ofText (cs : List Char) : Parameter :=
  match cut? '=' cs with
  | some (name, value) =>
    ⟨(lower (String.ofList (trimWhile isBlank name))).toList, unquote (trimWhile isBlank value)⟩
  | none => ⟨trimWhile isBlank cs, []⟩

/-! ## Segments -/

/-- A segment of a value: the parameter it is of, its number, if it has one, and whether octets are
written in hexadecimal digits. -/
structure Segment where
  parameter : List Char
  number? : Option Int
  value : List Char
  isEncoded : Bool

/-- The order of segments: by number, by value where these are equal, and encoded ones last. -/
def Segment.isBefore (a b : Segment) : Bool :=
  let (m, n) := (a.number?.getD 0, b.number?.getD 0)
  let (v, w) := (String.ofList a.value, String.ofList b.value)
  m < n || (m == n && (v < w || (v == w && (!a.isEncoded || b.isEncoded))))

/-- A character of the names of parameters that may have segments. -/
def isNameChar (c : Char) : Bool :=
  ('a' ≤ c && c ≤ 'z') || ('A' ≤ c && c ≤ 'Z') || isAsciiDigit c || c == '_'

/-- The segment that a parameter is by its name, if it is one. A star follows the name of the whole
parameter; after it stands a number, a number and a star, or nothing. -/
def Parameter.segment? (parameter : Parameter) : Except ParameterFault (Option Segment) :=
  let name := parameter.name.takeWhile isNameChar
  match parameter.name.drop name.length with
  | '*' :: mark =>
    let (digits, rest) := (mark.takeWhile isAsciiDigit, mark.dropWhile isAsciiDigit)
    if name.isEmpty || (rest != [] && (digits.isEmpty || rest != ['*'])) then .ok none
    else if digits.isEmpty then .ok (some ⟨name, none, parameter.value, true⟩)
    else
      match Number.readInteger (String.ofList digits) with
      | .ok number => .ok (some ⟨name, some number, parameter.value, !rest.isEmpty⟩)
      | .error fault => .error (.number fault)
  | _ => .ok none

/-- A text with its octets, a character for each. -/
def withOctets : List Char → List Char
  | '%' :: a :: b :: cs =>
    match hexValue? a, hexValue? b with
    | some high, some low => Char.ofNat (high * 16 + low) :: withOctets cs
    | _, _ => '%' :: withOctets (a :: b :: cs)
  | c :: cs => c :: withOctets cs
  | [] => []

/-- A value, and the character set of its octets where it comes with one. That set has no name where
none is said. -/
structure Assembled where
  value : List Char
  charset? : Option (List Char) := none
  deriving DecidableEq, Repr

/-- The value that segments make. An encoded one has a character set and a language before it. -/
def assemble (segments : List Segment) : Assembled :=
  let ordered := segments.mergeSort Segment.isBefore
  let value := ordered.flatMap fun segment =>
    if segment.isEncoded then withOctets segment.value else segment.value
  if ordered.any (·.isEncoded) then
    match (cut? '\x27' value).map fun (charset, rest) => (charset, cut? '\x27' rest) with
    | some (charset, some (_, value)) => ⟨value, some charset⟩
    | _ => ⟨value, some []⟩
  else ⟨value, none⟩

/-- The values of the parameters that come in segments, in the order in which these begin. The
segments of each have to be all with a number or all without. -/
def assembled (segments : List Segment) :
    Except ParameterFault (List (List Char × Assembled)) :=
  (segments.map (·.parameter)).eraseDups.mapM fun name =>
    let own := segments.filter (·.parameter == name)
    let isNumbered := (own.head?.bind (·.number?)).isSome
    if own.all (·.number?.isSome == isNumbered) then .ok (name, assemble own)
    else .error (.unordered isNumbered)

/-- The values of all parameters. The first one, which is the type, has no segments. -/
def values (contentType : String) : Except ParameterFault (List (List Char × Assembled)) :=
  match (parameters false contentType.toList).map Parameter.ofText with
  | [] => .ok []
  | first :: rest => do
    let marked ← rest.mapM fun parameter => do return (parameter, ← parameter.segment?)
    let whole := first :: (marked.filter (·.2.isNone)).map (·.1)
    let inSegments ← assembled (marked.filterMap (·.2))
    return whole.map (fun parameter => (parameter.name, ⟨parameter.value, none⟩)) ++ inSegments

/-! ## The character set -/

/-- The name of the parameter that says the character set. -/
def charsetParameter : String := "charset"

/-- The octets of a value. A character beyond them is written by its code point. -/
def octets (cs : List Char) : List UInt8 :=
  (cs.flatMap fun c => if c.toNat < 0x100 then [c] else escapedCode c).map (·.toNat.toUInt8)

/-- The text of a value. Its own character set counts if it is known and the octets are right in
it. -/
def Assembled.text (value : Assembled) : Except ParameterFault (List Char) :=
  match value.charset? with
  | none => .ok value.value
  | some name =>
    if name.contains '\x00' then .error .zero
    else
      let bytes := octets value.value
      let name := if name.isEmpty then "us-ascii" else String.ofList name
      if bytes.isEmpty then .ok []
      else
        match Charset.named? name with
        | none => .ok value.value
        | some charset =>
          ((charset.exactText? bytes).map (·.getD value.value)).mapError (.unread name)

/-- The name of a character set that a content type says, in lower case. A text beyond ASCII is no
name. -/
def charsetName? (contentType : String) : Except ParameterFault (Option String) := do
  match (← values contentType).find? fun (name, _) =>
      lower (String.ofList name) == charsetParameter with
  | none => return none
  | some (_, value) =>
    let text ← value.text
    if !text.all isAscii then return none
    else if text.contains '\x00' then throw .zero
    else return some (String.ofList (text.map asciiLower))

end ODataExplorer.Fetch
