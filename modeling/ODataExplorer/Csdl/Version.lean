import ODataExplorer.Csdl.Lookup
import ODataExplorer.Text.Blank

/-!
Protocol versions.

A modern document declares its version on the envelope. An older one declares `1.0` there, and the
version it speaks on the element inside.
-/

namespace ODataExplorer.Csdl

open Xml Text

/-- Versions from 4 on speak the modern dialect. -/
def isModernVersion (version : String) : Bool :=
  ['4'].isPrefixOf (trimWhile isBlank version.toList)

/-- The version of a document that declares none. -/
def unknownVersion : String := "Unknown"

/-- The versions that a document is recognized by. -/
def recognizedVersions : List String := ["1.0", "2.0", "3.0", "4.0", "4.01"]

/-- The version of the protocol that a document speaks, and the one its envelope declares. -/
structure Versions where
  protocol : String
  envelope : String
  deriving DecidableEq, Repr

/-- The version on the element inside the envelope, if it says one. -/
def innerVersion? (root : Element) : Option String := do
  let services ← findFirst? "DataServices" root
  let version ← attributeByLocalName? "DataServiceVersion" services
  let trimmed := trim version
  if trimmed.isEmpty then none else some trimmed

/-- The versions of a document by its envelope element. -/
def Versions.ofRoot (root : Element) : Versions :=
  let declared := trim (root.getText "Version")
  let envelope := if declared.isEmpty then unknownVersion else declared
  if isModernVersion envelope then ⟨envelope, envelope⟩
  else ⟨(innerVersion? root).getD envelope, envelope⟩

end ODataExplorer.Csdl
