import ODataExplorer.Xml.PrologToken
import ODataExplorer.Xml.StartTag

/-!
Document type declarations.

Their grammar is checked and two things are taken from them: what they say about attributes, and
whether some part of them was left unread. The first declaration of an entity refuses the document.
An external subset and references to parameter entities are never followed; after such a reference
the following declarations of entities and attributes count only in a document that stands alone.
-/

namespace ODataExplorer.Xml

/-- What was learnt from the declarations so far. -/
structure Subset where
  standalone : Bool
  /-- An external subset or a reference was met. -/
  external : Bool := false
  /-- A reference was met. -/
  referenced : Bool := false
  attributes : List AttributeDeclaration := []

namespace Subset

/-- What the declarations say to the content. -/
def declarations (subset : Subset) : Declarations where
  attributes := subset.attributes
  unread := subset.external && !subset.standalone

/-- Whether a declaration still counts. -/
def counts (subset : Subset) : Bool := !subset.referenced || subset.standalone

/-- Adds what is said about an attribute; the first declaration of an attribute wins. -/
def declare (declaration : AttributeDeclaration) (subset : Subset) : Subset :=
  if subset.attributes.any fun d =>
      d.element == declaration.element && d.name == declaration.name then subset
  else { subset with attributes := subset.attributes ++ [declaration] }

end Subset

/-- Reads a token and gives it to `f` with the rest of the text. -/
def withToken {α : Type} (cs : List Char) (f : PrologToken → List Char → Except Fault α) :
    Except Fault α :=
  match nextToken cs with
  | some (token, rest) => f token rest
  | none => .error .notWellFormed

/-- The fault of a token that has no place where it stands. A reference to a parameter entity may
stand between declarations only. -/
def PrologToken.misplaced : PrologToken → Fault
  | .parameterReference => .parameterReference
  | _ => .notWellFormed

/-- Reads the bracket that closes a declaration. -/
def closeDeclaration (cs : List Char) : Except Fault (List Char) :=
  withToken cs fun
    | .closeDeclaration, rest => .ok rest
    | token, _ => .error token.misplaced

/-- Reads a literal. -/
def takeLiteral (cs : List Char) : Except Fault (List Char × List Char) :=
  withToken cs fun
    | .literal text, rest => .ok (text, rest)
    | token, _ => .error token.misplaced

/-! ## Public identifiers -/

/-- The characters of public identifiers. -/
def isPublicChar (c : Char) : Bool :=
  ('a' ≤ c && c ≤ 'z') || ('A' ≤ c && c ≤ 'Z') || ('0' ≤ c && c ≤ '9') ||
  " \r\n-'()+,./:=?;!*#@$_%".toList.contains c

/-- A public identifier with every run of blanks made one space and none at its ends. -/
def normalPublicId (text : List Char) : String :=
  let words := (Text.pieces ' ' (text.map fun c => if isSpace c then ' ' else c)).filter (!·.isEmpty)
  String.ofList (Text.joinWith [' '] words)

/-- Reads a public identifier. -/
def takePublicId (cs : List Char) : Except Fault (String × List Char) := do
  let (text, rest) ← takeLiteral cs
  if text.all isPublicChar then return (normalPublicId text, rest) else throw .publicIdChar

/-! ## Entities -/

/-- Checks the text of an entity. References to parameters are known there, but have no place in it.
The fuel bounds the number of characters. -/
def checkEntityText : Nat → List Char → Except Fault Unit
  | _, [] => .ok ()
  | 0, _ :: _ => .error .notWellFormed
  | fuel + 1, '&' :: cs =>
    match scanReference cs with
    | some (.char code, rest) =>
      if (referencedChar? code).isSome then checkEntityText fuel rest else .error .notWellFormed
    | some (.entity _, rest) => checkEntityText fuel rest
    | none => .error .notWellFormed
  | _ + 1, '%' :: cs =>
    match scanPercent cs with
    | some (token, _) => .error token.misplaced
    | none => .error .notWellFormed
  | fuel + 1, _ :: cs => checkEntityText fuel cs

/-- What is known of an entity when its declaration turns out to be one. -/
structure EntityHead where
  name : String
  /-- It is reported: declarations still count, and the name is not one that needs none. -/
  reported : Bool
  /-- It is an entity for use in the content, not a parameter. -/
  general : Bool

/-- Reads the end of the declaration of an external entity. -/
def endExternalEntity (head : EntityHead) (systemId : List Char) (publicId? : Option String)
    (cs : List Char) : Except Fault (List Char) :=
  let declared : Except Fault Unit :=
    if head.reported then
      .error (.entityDeclared head.name (some (String.ofList systemId)) publicId?)
    else .ok ()
  withToken cs fun
    | .closeDeclaration, rest => do
      declared
      return rest
    | .name "NDATA" false, rest =>
      if !head.general then .error .notWellFormed
      else
        withToken rest fun
          | .name _ false, rest => do
            declared
            closeDeclaration rest
          | token, _ => .error token.misplaced
    | token, _ => .error token.misplaced

/-- Reads what an entity is, after its name. -/
def readEntityBody (subset : Subset) (head : EntityHead) (cs : List Char) :
    Except Fault (List Char) :=
  withToken cs fun
    | .literal text, rest => do
      if head.reported then throw (.entityDeclared head.name none none)
      if subset.counts then checkEntityText text.length text
      closeDeclaration rest
    | .name "SYSTEM" false, rest => do
      let (systemId, rest) ← takeLiteral rest
      endExternalEntity head systemId none rest
    | .name "PUBLIC" false, rest => do
      let (publicId, rest) ← takePublicId rest
      let (systemId, rest) ← takeLiteral rest
      endExternalEntity head systemId (some publicId) rest
    | token, _ => .error token.misplaced

/-- Reads the declaration of an entity. -/
def readEntity (subset : Subset) (cs : List Char) : Except Fault (List Char) :=
  withToken cs fun
    | .percent, rest =>
      withToken rest fun
        | .name name false, rest =>
          readEntityBody subset ⟨name, subset.counts, false⟩ rest
        | token, _ => .error token.misplaced
    | .name name false, rest =>
      let reported := subset.counts && (predefinedEntity? name).isNone
      readEntityBody subset ⟨name, reported, true⟩ rest
    | token, _ => .error token.misplaced

/-! ## Attributes -/

/-- Reads the alternatives of an enumeration after its opening parenthesis. The fuel bounds their
number. -/
def readAlternatives (namesOnly : Bool) : Nat → List Char → Except Fault (List Char)
  | 0, _ => .error .notWellFormed
  | fuel + 1, cs =>
    withToken cs fun token rest =>
      let allowed :=
        match token with
        | .name _ prefixed => !(namesOnly && prefixed)
        | .nameToken => !namesOnly
        | _ => false
      if !allowed then .error token.misplaced
      else
        withToken rest fun
          | .bar, rest => readAlternatives namesOnly fuel rest
          | .closeParenthesis .once, rest => .ok rest
          | token, _ => .error token.misplaced

/-- The types of attributes that are words, all but the one that keeps its value as it is. -/
def tokenizedTypes : List String :=
  ["ID", "IDREF", "IDREFS", "ENTITY", "ENTITIES", "NMTOKEN", "NMTOKENS"]

/-- Reads the type of an attribute: whether its value is a list of tokens. -/
def readAttributeType (cs : List Char) : Except Fault (Bool × List Char) :=
  withToken cs fun
    | .name "CDATA" false, rest => .ok (false, rest)
    | .name "NOTATION" false, rest =>
      withToken rest fun
        | .openParenthesis, rest => do
          let rest ← readAlternatives true rest.length rest
          return (true, rest)
        | token, _ => .error token.misplaced
    | .name type false, rest =>
      if tokenizedTypes.contains type then .ok (true, rest) else .error .notWellFormed
    | .openParenthesis, rest => do
      let rest ← readAlternatives false rest.length rest
      return (true, rest)
    | token, _ => .error token.misplaced

/-- Evaluates the literal of a declared value. Its text is checked while it is evaluated, so the
first fault in it counts. -/
def declaredValue (subset : Subset) (tokenized : Bool) (text : List Char) :
    Except Fault (Option String) :=
  if !subset.counts then .ok none
  else do
    let (parts, complete) := valueParts text
    let value ← evaluateParts subset.declarations tokenized [] parts
    if complete then return some value else throw .notWellFormed

/-- Reads the value an attribute takes when it is absent. -/
def readDeclaredValue (subset : Subset) (tokenized : Bool) (cs : List Char) :
    Except Fault (Option String × List Char) :=
  withToken cs fun
    | .hashName "IMPLIED", rest => .ok (none, rest)
    | .hashName "REQUIRED", rest => .ok (none, rest)
    | .hashName "FIXED", rest => do
      let (text, rest) ← takeLiteral rest
      let value? ← declaredValue subset tokenized text
      return (value?, rest)
    | .literal text, rest => do
      let value? ← declaredValue subset tokenized text
      return (value?, rest)
    | token, _ => .error token.misplaced

/-- Reads the attributes of an element up to the closing bracket. The fuel bounds their number. -/
def readAttributeList (element : String) :
    Nat → Subset → List Char → Except Fault (Subset × List Char)
  | 0, _, _ => .error .notWellFormed
  | fuel + 1, subset, cs =>
    withToken cs fun
      | .closeDeclaration, rest => .ok (subset, rest)
      | .name name _, rest => do
        let (tokenized, rest) ← readAttributeType rest
        let (value?, rest) ← readDeclaredValue subset tokenized rest
        let subset :=
          if subset.counts then subset.declare ⟨element, name, tokenized, value?⟩ else subset
        readAttributeList element fuel subset rest
      | token, _ => .error token.misplaced

/-! ## Elements -/

/-- Reads the rest of mixed content. The fuel bounds the number of names. -/
def readMixed (names : Bool) : Nat → List Char → Except Fault (List Char)
  | 0, _ => .error .notWellFormed
  | fuel + 1, cs =>
    withToken cs fun
      | .closeParenthesis .any, rest => .ok rest
      | .closeParenthesis .once, rest => if names then .error .notWellFormed else .ok rest
      | .bar, rest =>
        withToken rest fun
          | .name _ _, rest => readMixed true fuel rest
          | token, _ => .error token.misplaced
      | token, _ => .error token.misplaced

/-- What separates the items of an open group, once two of them were read. -/
abbrev GroupSeparator := Option Bool

mutual

/-- Reads an item of a content model. `groups` are the open groups, innermost first; the fuel
bounds the number of tokens. -/
def readItem (groups : List GroupSeparator) : Nat → List Char → Except Fault (List Char)
  | 0, _ => .error .notWellFormed
  | fuel + 1, cs =>
    withToken cs fun
      | .openParenthesis, rest => readItem (none :: groups) fuel rest
      | .name _ _, rest => readAfterItem groups fuel rest
      | .markedName, rest => readAfterItem groups fuel rest
      | token, _ => .error token.misplaced

/-- Reads what follows an item. Commas and bars do not mix in one group. -/
def readAfterItem (groups : List GroupSeparator) : Nat → List Char → Except Fault (List Char)
  | 0, _ => .error .notWellFormed
  | fuel + 1, cs =>
    withToken cs fun token rest =>
      match token, groups with
      | .closeParenthesis _, [_] => .ok rest
      | .closeParenthesis _, _ :: outer => readAfterItem outer fuel rest
      | .comma, separator :: outer =>
        if separator == some true then .error .notWellFormed
        else readItem (some false :: outer) fuel rest
      | .bar, separator :: outer =>
        if separator == some false then .error .notWellFormed
        else readItem (some true :: outer) fuel rest
      | token, _ => .error token.misplaced

end

/-- Reads the declaration of an element. -/
def readElementDeclaration (cs : List Char) : Except Fault (List Char) :=
  withToken cs fun
    | .name _ _, rest =>
      withToken rest fun
        | .name word false, rest =>
          if word == "EMPTY" || word == "ANY" then closeDeclaration rest else .error .notWellFormed
        | .openParenthesis, rest =>
          withToken rest fun
            | .hashName "PCDATA", inner => do
              let rest ← readMixed false inner.length inner
              closeDeclaration rest
            | _, _ => do
              let rest ← readItem [none] (2 * rest.length) rest
              closeDeclaration rest
        | token, _ => .error token.misplaced
    | token, _ => .error token.misplaced

/-! ## Notations -/

/-- Reads the declaration of a notation. -/
def readNotation (cs : List Char) : Except Fault (List Char) :=
  withToken cs fun
    | .name _ false, rest =>
      withToken rest fun
        | .name "SYSTEM" false, rest => do
          let (_, rest) ← takeLiteral rest
          closeDeclaration rest
        | .name "PUBLIC" false, rest => do
          let (_, rest) ← takePublicId rest
          withToken rest fun
            | .literal _, rest => closeDeclaration rest
            | .closeDeclaration, rest => .ok rest
            | token, _ => .error token.misplaced
        | token, _ => .error token.misplaced
    | token, _ => .error token.misplaced

/-! ## The document type -/

/-- Reads declarations up to the closing bracket of the internal subset. The fuel bounds their
number. -/
def readSubset : Nat → Subset → List Char → Except Fault (Subset × List Char)
  | 0, _, _ => .error .notWellFormed
  | fuel + 1, subset, cs =>
    withToken cs fun
      | .openDeclaration "ENTITY", rest => do
        let rest ← readEntity subset rest
        readSubset fuel subset rest
      | .openDeclaration "ATTLIST", rest =>
        withToken rest fun
          | .name element _, rest => do
            let (subset, rest) ← readAttributeList element rest.length subset rest
            readSubset fuel subset rest
          | token, _ => .error token.misplaced
      | .openDeclaration "ELEMENT", rest => do
        let rest ← readElementDeclaration rest
        readSubset fuel subset rest
      | .openDeclaration "NOTATION", rest => do
        let rest ← readNotation rest
        readSubset fuel subset rest
      | .comment, rest => readSubset fuel subset rest
      | .processing, rest => readSubset fuel subset rest
      | .parameterReference, rest =>
        readSubset fuel { subset with external := true, referenced := true } rest
      | .closeBracket, rest => do
        let rest ← closeDeclaration rest
        return (subset, rest)
      | token, _ => .error token.misplaced

/-- Reads what follows the identifiers of the external subset. -/
def readSubsetOrEnd (subset : Subset) (cs : List Char) : Except Fault (Subset × List Char) :=
  withToken cs fun
    | .openBracket, rest => readSubset (rest.length + 1) subset rest
    | .closeDeclaration, rest => .ok (subset, rest)
    | token, _ => .error token.misplaced

/-- Reads a document type declaration after its keyword. -/
def readDoctype (standalone : Bool) (cs : List Char) : Except Fault (Subset × List Char) :=
  let subset : Subset := { standalone }
  withToken cs fun
    | .name _ _, rest =>
      withToken rest fun
        | .openBracket, rest => readSubset (rest.length + 1) subset rest
        | .closeDeclaration, rest => .ok (subset, rest)
        | .name "SYSTEM" false, rest => do
          let (_, rest) ← takeLiteral rest
          readSubsetOrEnd { subset with external := true } rest
        | .name "PUBLIC" false, rest => do
          let (_, rest) ← takePublicId rest
          let (_, rest) ← takeLiteral rest
          readSubsetOrEnd { subset with external := true } rest
        | token, _ => .error token.misplaced
    | token, _ => .error token.misplaced

end ODataExplorer.Xml
