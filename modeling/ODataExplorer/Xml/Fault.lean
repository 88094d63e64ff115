import ODataExplorer.Text.Quoted

/-!
Why a document is refused.

The grammar of documents has one reason for all its violations; what a document can break besides
the grammar has reasons of its own. A declared entity refuses the document outright, whether or not
it is ever used.
-/

namespace ODataExplorer.Xml

/-- Why a document is refused. -/
inductive Fault where
  | notWellFormed
  | mismatchedTag
  | duplicateAttribute
  | unboundPrefix
  | undefinedEntity
  /-- An entity that may have been declared in a part of the document that was not read. -/
  | unreadEntity (name : String)
  | junkAfterRoot
  /-- A namespace that only one prefix, or none at all, may stand for. -/
  | reservedNamespace
  /-- A reference to a parameter entity inside a declaration or outside the document type. -/
  | parameterReference
  /-- A character that public identifiers do not have. -/
  | publicIdChar
  | entityDeclared (name : String) (systemId publicId : Option String)
  deriving DecidableEq, Repr

def Fault.message : Fault → String
  | .notWellFormed => "not well-formed"
  | .mismatchedTag => "mismatched tag"
  | .duplicateAttribute => "duplicate attribute"
  | .unboundPrefix => "unbound prefix"
  | .undefinedEntity => "undefined entity"
  | .unreadEntity name => s!"undefined entity &{name};"
  | .junkAfterRoot => "junk after document element"
  | .reservedNamespace => "prefix must not be bound to one of the reserved namespace names"
  | .parameterReference => "illegal parameter entity reference"
  | .publicIdChar => "illegal character(s) in public id"
  | .entityDeclared name systemId publicId =>
    s!"EntitiesForbidden(name='{name}', system_id={Text.quotedOrNone systemId}, " ++
      s!"public_id={Text.quotedOrNone publicId})"

/-- Turns a scan that found no continuation into a fault. -/
def wellFormed {α : Type} : Option α → Except Fault α
  | some a => .ok a
  | none => .error .notWellFormed

end ODataExplorer.Xml
