import ODataExplorer.Xml.Declaration
import ODataExplorer.Xml.Doctype
import ODataExplorer.Xml.Source
import ODataExplorer.Xml.Tree

/-!
Reading documents.

A document is a prolog, one element, and an epilog of comments and instructions. The content of the
root is read with a stack of the elements that are open. The first violation ends the reading, and
within one start tag the grammar is checked to its end before anything else.
-/

namespace ODataExplorer.Xml

/-! ## The prolog -/

/-- Reads up to the root element: comments, instructions and at most one document type. The fuel
bounds the number of tokens. -/
def readProlog : Nat → Bool → Option Subset → List Char → Except Fault (Declarations × List Char)
  | 0, _, _, _ => .error .notWellFormed
  | fuel + 1, standalone, subset?, cs =>
    withToken cs fun
      | .comment, rest => readProlog fuel standalone subset? rest
      | .processing, rest => readProlog fuel standalone subset? rest
      | .openDeclaration "DOCTYPE", rest =>
        if subset?.isSome then .error .notWellFormed
        else do
          let (subset, rest) ← readDoctype standalone rest
          readProlog fuel standalone (some subset) rest
      | .rootElement, rest =>
        .ok ((subset?.map Subset.declarations).getD { }, rest)
      | token, _ => .error token.misplaced

/-- Reads an XML declaration, which may stand at the very beginning only, and the prolog. -/
def readBeginning (cs : List Char) : Except Fault (Declarations × List Char) :=
  match scanPrologToken cs with
  | some (.xmlDeclaration content, rest) =>
    match readDeclaration content with
    | some standalone => readProlog rest.length standalone none rest
    | none => .error .notWellFormed
  | _ => readProlog cs.length false none cs

/-! ## Content -/

/-- An element whose end tag has not been met, with its children so far, last first. -/
structure OpenElement where
  opening : Opening
  children : List Element

namespace OpenElement

/-- The element, once it is closed. -/
def close (pending : OpenElement) : Element :=
  .node pending.opening.tag pending.opening.attributes pending.children.reverse

/-- The element with one more child. -/
def addChild (child : Element) (pending : OpenElement) : OpenElement :=
  { pending with children := child :: pending.children }

end OpenElement

/-- Reads an end tag after `</`: the name it gives. -/
def scanEndTag : List Char → Option (String × List Char)
  | c :: cs =>
    if !isNameStart c then none
    else
      let isEndNameChar := fun c => isNameChar c || c == ':'
      match skipSpace (cs.dropWhile isEndNameChar) with
      | '>' :: rest => some (String.ofList (c :: cs.takeWhile isEndNameChar), rest)
      | _ => none
  | [] => none

/-- What the content of an element goes on with, character data and references passed over. -/
inductive Markup where
  | start (tag : StartTag)
  | finish (name : String)

/-- Reads to the next tag. The fuel bounds the number of characters. -/
def readToTag (declarations : Declarations) : Nat → List Char → Except Fault (Markup × List Char)
  | 0, _ => .error .notWellFormed
  | _, [] => .error .notWellFormed
  | fuel + 1, '<' :: '!' :: '-' :: '-' :: cs => do
    let rest ← wellFormed (skipComment cs)
    readToTag declarations fuel rest
  | fuel + 1, '<' :: '!' :: '[' :: 'C' :: 'D' :: 'A' :: 'T' :: 'A' :: '[' :: cs => do
    let rest ← wellFormed (skipCharacterData cs)
    readToTag declarations fuel rest
  | fuel + 1, '<' :: '?' :: cs => do
    match ← wellFormed (scanProcessing cs) with
    | (.processing, rest) => readToTag declarations fuel rest
    | (.declaration _, _) => throw .notWellFormed
  | _ + 1, '<' :: '/' :: cs => do
    let (name, rest) ← wellFormed (scanEndTag cs)
    return (.finish name, rest)
  | _ + 1, '<' :: cs => do
    let (tag, rest) ← wellFormed (scanStartTag cs)
    return (.start tag, rest)
  | fuel + 1, '&' :: cs => do
    match ← wellFormed (scanReference cs) with
    | (.char code, rest) =>
      if (referencedChar? code).isNone then throw .notWellFormed
      readToTag declarations fuel rest
    | (.entity name, rest) =>
      if (predefinedEntity? name).isNone then
        throw (if declarations.unread then .unreadEntity name else .undefinedEntity)
      readToTag declarations fuel rest
  | _ + 1, ']' :: ']' :: '>' :: _ => .error .notWellFormed
  | fuel + 1, c :: cs =>
    if isDocumentChar c then readToTag declarations fuel cs else .error .notWellFormed

/-- Gives a finished element to the element around it. Without one it is the root. -/
def finishElement (element : Element) : List OpenElement → Sum Element (List OpenElement)
  | [] => .inl element
  | parent :: rest => .inr (parent.addChild element :: rest)

/-- The namespaces in force inside the innermost open element. -/
def innermostScope : List OpenElement → Scope
  | [] => .initial
  | innermost :: _ => innermost.opening.scope

/-- Reads tags until the root element is closed. The fuel bounds the number of tags. -/
def readContent (declarations : Declarations) :
    Nat → List OpenElement → List Char → Except Fault (Element × List Char)
  | 0, _, _ => .error .notWellFormed
  | fuel + 1, stack, cs => do
    match ← readToTag declarations (cs.length + 1) cs with
    | (.start tag, rest) =>
      let opening ← tag.evaluate declarations (innermostScope stack)
      if tag.empty then
        match finishElement (OpenElement.close ⟨opening, []⟩) stack with
        | .inl root => return (root, rest)
        | .inr stack => readContent declarations fuel stack rest
      else readContent declarations fuel (⟨opening, []⟩ :: stack) rest
    | (.finish name, rest) =>
      match stack with
      | [] => throw .notWellFormed
      | innermost :: stack =>
        if innermost.opening.name != name then throw .mismatchedTag
        match finishElement innermost.close stack with
        | .inl root => return (root, rest)
        | .inr stack => readContent declarations fuel stack rest

/-! ## The epilog -/

/-- Checks what follows the root. The fuel bounds the number of tokens. -/
def readEpilog : Nat → List Char → Except Fault Unit
  | 0, _ => .error .notWellFormed
  | fuel + 1, cs =>
    if (skipSpace cs).isEmpty then .ok ()
    else
      withToken cs fun
        | .comment, rest => readEpilog fuel rest
        | .processing, rest => readEpilog fuel rest
        | _, _ => .error .junkAfterRoot

/-- The root element of a document. -/
def readDocument (source : Source) : Except Fault Element := do
  let (declarations, rest) ← readBeginning source.chars
  let (root, rest) ← readContent declarations (rest.length + 1) [] rest
  readEpilog (rest.length + 1) rest
  source.checkEnd
  return root

/-- The root element of a document. -/
def read (text : String) : Except Fault Element :=
  readDocument (.ofText text.toList)

end ODataExplorer.Xml
