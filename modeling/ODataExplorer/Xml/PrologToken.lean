import ODataExplorer.Xml.Char

/-!
Tokens outside the root element.

The same tokens serve the prolog, the declarations of the document type and what follows the root.
A token is scanned without regard to its place; whether it may stand there is for the reader to
say. Names are scanned to their end, and only certain characters may come next, so that two names
or a name and a literal never touch.
-/

namespace ODataExplorer.Xml

/-- How often an item of a content model may occur, if it is marked. -/
inductive Occurrence where
  | once
  | optional
  | any
  | several
  deriving DecidableEq, Repr

inductive PrologToken where
  | space
  | comment
  | processing
  | xmlDeclaration (content : List Char)
  | literal (text : List Char)
  /-- A name, with or without a prefix. -/
  | name (text : String) (prefixed : Bool)
  /-- Name characters that do not make up a name. -/
  | nameToken
  /-- A name with its mark in a content model. -/
  | markedName
  | percent
  | parameterReference
  | hashName (text : String)
  | comma
  | bar
  | openParenthesis
  | closeParenthesis (occurrence : Occurrence)
  | openBracket
  | closeBracket
  | closeDeclaration
  | openDeclaration (keyword : String)
  | openCondition
  | closeCondition
  /-- The bracket of the root element; it is not consumed. -/
  | rootElement
  deriving Repr

/-- The text between quotes after its opening quote. What follows the closing quote is limited. -/
def scanLiteral (quote : Char) (cs : List Char) : Option (PrologToken × List Char) :=
  match scanUntil quote cs with
  | none => none
  | some (text, rest) =>
    let ends :=
      match rest with
      | [] => true
      | c :: _ => isSpace c || c == '>' || c == '%' || c == '['
    if ends && text.all isDocumentChar then some (.literal text, rest) else none

/-- What a run of name characters is, so far. -/
inductive NameKind where
  | plain
  | prefixed
  | token
  deriving DecidableEq, Repr

/-- Reads on in a run of name characters; `done` is what was read, last first. -/
def scanNameRun (kind : NameKind) (done : List Char) : List Char → Option (PrologToken × List Char)
  | [] => some (finish kind done, [])
  | c :: cs =>
    if isNameChar c then scanNameRun kind (c :: done) cs
    else if c == ':' then
      match kind with
      | .plain =>
        match cs with
        | [] => none
        | next :: _ => scanNameRun (if isNameChar next then .prefixed else .token) (c :: done) cs
      | _ => scanNameRun .token (c :: done) cs
    else if isSpace c || c == '>' || c == ')' || c == ',' || c == '|' || c == '[' || c == '%' then
      some (finish kind done, c :: cs)
    else if c == '+' || c == '*' || c == '?' then
      if kind == .token then none else some (.markedName, cs)
    else none
where
  finish (kind : NameKind) (done : List Char) : PrologToken :=
    match kind with
    | .plain => .name (String.ofList done.reverse) false
    | .prefixed => .name (String.ofList done.reverse) true
    | .token => .nameToken

def isKeywordChar (c : Char) : Bool :=
  c.toNat < 0x80 && isNameStart c

/-- Reads a declaration after `<!`. -/
def scanDeclaration : List Char → Option (PrologToken × List Char)
  | '-' :: '-' :: cs => (skipComment cs).map fun rest => (.comment, rest)
  | '[' :: cs => some (.openCondition, cs)
  | cs =>
    let keyword := cs.takeWhile isKeywordChar
    if keyword.isEmpty then none
    else
      match cs.dropWhile isKeywordChar with
      | '%' :: next :: rest =>
        if isSpace next || next == '%' then none
        else some (.openDeclaration (String.ofList keyword), '%' :: next :: rest)
      | c :: rest =>
        if isSpace c then some (.openDeclaration (String.ofList keyword), c :: rest) else none
      | [] => none

/-- Reads what follows a closing parenthesis. -/
def scanParenthesis : List Char → Option (PrologToken × List Char)
  | [] => some (.closeParenthesis .once, [])
  | '*' :: cs => some (.closeParenthesis .any, cs)
  | '?' :: cs => some (.closeParenthesis .optional, cs)
  | '+' :: cs => some (.closeParenthesis .several, cs)
  | c :: cs =>
    if isSpace c || c == '>' || c == ',' || c == '|' || c == ')' then
      some (.closeParenthesis .once, c :: cs)
    else none

/-- Reads what follows a per cent sign: a reference, or nothing that belongs to it. -/
def scanPercent : List Char → Option (PrologToken × List Char)
  | [] => none
  | c :: cs =>
    if isSpace c || c == '%' then some (.percent, c :: cs)
    else
      match scanSimpleName (c :: cs) with
      | some (_, ';' :: rest) => some (.parameterReference, rest)
      | _ => none

/-- Reads a name after a hash sign. -/
def scanHashName (cs : List Char) : Option (PrologToken × List Char) :=
  match scanSimpleName cs with
  | some (text, rest) =>
    let ends :=
      match rest with
      | [] => true
      | c :: _ => isSpace c || c == ')' || c == '>' || c == '%' || c == '|'
    if ends then some (.hashName text, rest) else none
  | none => none

/-- Reads one token; `none` where no token can begin or where it cannot end. -/
def scanPrologToken : List Char → Option (PrologToken × List Char)
  | [] => none
  | '"' :: cs => scanLiteral '"' cs
  | '\x27' :: cs => scanLiteral '\x27' cs
  | '<' :: '!' :: cs => scanDeclaration cs
  | '<' :: '?' :: cs =>
    (scanProcessing cs).map fun
      | (.processing, rest) => (.processing, rest)
      | (.declaration content, rest) => (.xmlDeclaration content, rest)
  | '<' :: c :: cs =>
    if isNameStart c || 0x80 ≤ c.toNat then some (.rootElement, '<' :: c :: cs) else none
  | '<' :: [] => none
  | '%' :: cs => scanPercent cs
  | ',' :: cs => some (.comma, cs)
  | '|' :: cs => some (.bar, cs)
  | '[' :: cs => some (.openBracket, cs)
  | ']' :: ']' :: '>' :: cs => some (.closeCondition, cs)
  | [']', ']'] => none
  | ']' :: cs => some (.closeBracket, cs)
  | '(' :: cs => some (.openParenthesis, cs)
  | ')' :: cs => scanParenthesis cs
  | '>' :: cs => some (.closeDeclaration, cs)
  | '#' :: cs => scanHashName cs
  | c :: cs =>
    if isSpace c then some (.space, skipSpace cs)
    else if isNameStart c then scanNameRun .plain [c] cs
    else if isNameChar c || c == ':' then scanNameRun .token [c] cs
    else none

/-- The next token that is not space. -/
def nextToken (cs : List Char) : Option (PrologToken × List Char) :=
  scanPrologToken (skipSpace cs)

end ODataExplorer.Xml
