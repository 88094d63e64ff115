import ODataExplorer.Text.Split
import ODataExplorer.Xml.Char
import ODataExplorer.Xml.Fault

/-!
Start tags: attribute values, namespace scopes and full names.

A tag is first read as it is written. Then its attributes are taken in order: a name must not
repeat, a value is evaluated, a namespace declaration extends the scope. Only after the last
attribute are prefixes looked up, those of attributes before that of the element, so a declaration
counts for the whole tag it stands in.
-/

namespace ODataExplorer.Xml

/-- A start tag as written. -/
structure StartTag where
  name : String
  attributes : List (String × List ValuePart)
  /-- The tag closes itself. -/
  empty : Bool

/-- What the declarations of a document say about an attribute: whether its value is a list of
tokens, in which blanks are collapsed, and the value it takes when it is absent. -/
structure AttributeDeclaration where
  element : String
  name : String
  tokenized : Bool
  value? : Option String

/-- What the document type says about the content of the document. -/
structure Declarations where
  attributes : List AttributeDeclaration := []
  /-- Some part of the declarations was not read, and the document does not stand alone. An entity
  that nobody declared may then be declared there. -/
  unread : Bool := false

/-- Reads the end of a tag after a value, or the next attribute. The fuel bounds the number of
attributes. -/
def scanAttributes : Nat → List Char → Option (List (String × List ValuePart) × Bool × List Char)
  | _, '>' :: rest => some ([], false, rest)
  | _, '/' :: '>' :: rest => some ([], true, rest)
  | 0, _ => none
  | fuel + 1, cs =>
    if !cs.head?.any isSpace then none
    else
      match skipSpace cs with
      | '>' :: rest => some ([], false, rest)
      | '/' :: '>' :: rest => some ([], true, rest)
      | cs => do
        let (name, afterName) ← scanName cs
        match skipSpace afterName with
        | '=' :: afterEquals =>
          match skipSpace afterEquals with
          | quote :: afterQuote =>
            if quote != '"' && quote != '\x27' then none
            else
              let (value, rest) ← scanUntil quote afterQuote
              let (parts, complete) := valueParts value
              let (others, empty, rest) ← if complete then scanAttributes fuel rest else none
              return ((name, parts) :: others, empty, rest)
          | [] => none
        | _ => none

/-- Reads a start tag after its opening bracket. -/
def scanStartTag (cs : List Char) : Option (StartTag × List Char) := do
  let (name, afterName) ← scanName cs
  let (attributes, empty, rest) ← scanAttributes cs.length afterName
  return (⟨name, attributes, empty⟩, rest)

/-! ## Values -/

/-- Adds a space to a value of which `done` is what was read, last first. In a list of tokens no
space comes first or follows another. -/
def addSpace (tokenized : Bool) (done : List Char) : List Char :=
  if tokenized && (done.isEmpty || done.head? == some ' ') then done else ' ' :: done

/-- The value that the parts make up. -/
def evaluateParts (declarations : Declarations) (tokenized : Bool) (done : List Char) :
    List ValuePart → Except Fault String
  | [] =>
    let done := if tokenized && done.head? == some ' ' then done.drop 1 else done
    .ok (String.ofList done.reverse)
  | .char c :: parts => evaluateParts declarations tokenized (c :: done) parts
  | .space :: parts => evaluateParts declarations tokenized (addSpace tokenized done) parts
  | .reference (.char code) :: parts =>
    match referencedChar? code with
    | none => .error .notWellFormed
    | some ' ' => evaluateParts declarations tokenized (addSpace tokenized done) parts
    | some c => evaluateParts declarations tokenized (c :: done) parts
  | .reference (.entity name) :: parts =>
    match predefinedEntity? name with
    | some c => evaluateParts declarations tokenized (c :: done) parts
    | none =>
      if declarations.unread then evaluateParts declarations tokenized done parts
      else .error .undefinedEntity

/-! ## Namespaces -/

/-- The namespaces in force, innermost first: a prefix, empty for the default, and its name. An
empty name takes the default namespace back. -/
abbrev Scope := List (String × String)

def xmlNamespace : String := "http://www.w3.org/XML/1998/namespace"

def declarationNamespace : String := "http://www.w3.org/2000/xmlns/"

/-- The one prefix that needs no declaration. -/
def Scope.initial : Scope := [("xml", xmlNamespace)]

/-- The namespace a prefix stands for. -/
def Scope.find? (label : String) (scope : Scope) : Option String :=
  (scope.lookup label).filter (!·.isEmpty)

/-- Declares a namespace. A prefix cannot be taken back, `xml` stands for its own namespace and
nothing else does, and the bracket that closes a namespace in a full name may not occur in one. -/
def Scope.declare (label uri : String) (scope : Scope) : Except Fault Scope :=
  if uri.isEmpty && !label.isEmpty then .error .notWellFormed
  else if label == "xmlns" then .error .notWellFormed
  else if uri.toList.contains '\x7d' then .error .notWellFormed
  else if label == "xml" then
    if uri == xmlNamespace then .ok ((label, uri) :: scope) else .error .notWellFormed
  else if uri == xmlNamespace || uri == declarationNamespace then .error .reservedNamespace
  else .ok ((label, uri) :: scope)

/-- A name split at its colon: the prefix, if there is one, and the local name. -/
def splitName (name : String) : Option String × String :=
  match Text.cut? ':' name.toList with
  | some (before, after) => (some (String.ofList before), String.ofList after)
  | none => (none, name)

/-- The prefix that an attribute declares, if it is a namespace declaration. -/
def declaredPrefix? (name : String) : Option String :=
  if name == "xmlns" then some ""
  else
    match splitName name with
    | (some "xmlns", label) => some label
    | _ => none

/-- A name with its namespace in front. -/
def fullName (uri localPart : String) : String :=
  "\x7b" ++ uri ++ "\x7d" ++ localPart

/-! ## Tags -/

/-- The attributes of a tag while they are taken in order. -/
structure Attributes where
  /-- The names met so far, as written. -/
  met : List String := []
  /-- Names as written, with values, namespace declarations left out. -/
  kept : List (String × String) := []
  scope : Scope

/-- Takes one attribute whose value is evaluated. -/
def Attributes.add (name value : String) (taken : Attributes) : Except Fault Attributes :=
  match declaredPrefix? name with
  | some label => do
    let scope ← taken.scope.declare label value
    return { taken with met := name :: taken.met, scope }
  | none =>
    .ok { taken with met := name :: taken.met, kept := taken.kept ++ [(name, value)] }

/-- Takes the attributes a tag was written with. -/
def takeWritten (declarations : Declarations) (element : String) (taken : Attributes) :
    List (String × List ValuePart) → Except Fault Attributes
  | [] => .ok taken
  | (name, parts) :: rest => do
    if taken.met.contains name then throw .duplicateAttribute
    let declared? := declarations.attributes.find? fun d => d.element == element && d.name == name
    let value ← evaluateParts declarations (declared?.any (·.tokenized)) [] parts
    let taken ← taken.add name value
    takeWritten declarations element taken rest

/-- Takes the attributes that are absent but have a declared value. -/
def takeDeclared (element : String) (taken : Attributes) :
    List AttributeDeclaration → Except Fault Attributes
  | [] => .ok taken
  | declaration :: rest =>
    match declaration.value? with
    | some value =>
      if declaration.element == element && !taken.met.contains declaration.name then do
        let taken ← taken.add declaration.name value
        takeDeclared element taken rest
      else takeDeclared element taken rest
    | none => takeDeclared element taken rest

/-- Replaces prefixes by namespaces. Two prefixed names must not become one. -/
def resolveAttributes (scope : Scope) (resolved : List String) :
    List (String × String) → Except Fault (List (String × String))
  | [] => .ok []
  | (name, value) :: rest =>
    match splitName name with
    | (none, _) => do
      let others ← resolveAttributes scope resolved rest
      return (name, value) :: others
    | (some label, localPart) =>
      match scope.find? label with
      | none => .error .unboundPrefix
      | some uri => do
        let full := fullName uri localPart
        if resolved.contains full then throw .duplicateAttribute
        let others ← resolveAttributes scope (full :: resolved) rest
        return (full, value) :: others

/-- The full name of an element. Without a prefix it is in the default namespace. -/
def resolveTag (scope : Scope) (name : String) : Except Fault String :=
  match splitName name with
  | (none, _) =>
    match scope.find? "" with
    | some uri => .ok (fullName uri name)
    | none => .ok name
  | (some label, localPart) =>
    match scope.find? label with
    | some uri => .ok (fullName uri localPart)
    | none => .error .unboundPrefix

/-- An element that a start tag opens: the name its end tag repeats, its full name and attributes,
and the namespaces in force inside. -/
structure Opening where
  name : String
  tag : String
  attributes : List (String × String)
  scope : Scope

/-- Evaluates a start tag. -/
def StartTag.evaluate (declarations : Declarations) (scope : Scope) (tag : StartTag) :
    Except Fault Opening := do
  let taken ← takeWritten declarations tag.name { scope } tag.attributes
  let taken ← takeDeclared tag.name taken declarations.attributes
  let attributes ← resolveAttributes taken.scope [] taken.kept
  let fullTag ← resolveTag taken.scope tag.name
  return ⟨tag.name, fullTag, attributes, taken.scope⟩

end ODataExplorer.Xml
