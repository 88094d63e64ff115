import ODataExplorer.Json.Reader
import ODataExplorer.Log.Entry
import ODataExplorer.Xml.Reader

/-!
Decoding response texts.

A text is read in the preferred format and, if that fails, in the other. A document in XML is
checked and handed on as text. A blank text is an absent payload.
-/

namespace ODataExplorer.Payload

open Text

inductive Format where
  | json
  | xml
  deriving DecidableEq, Repr

namespace Format

def name : Format → String
  | .json => "json"
  | .xml => "xml"

/-- The other format. -/
def other : Format → Format
  | .json => .xml
  | .xml => .json

end Format

/-- Why a text is not in a format. -/
inductive FormatFault where
  | json (reason : Json.ReadError)
  | xml (fault : Xml.Fault)
  deriving DecidableEq, Repr

def FormatFault.message : FormatFault → String
  | .json reason => reason.message
  | .xml fault => fault.message

/-- Reads a text in a format. -/
def readAs (format : Format) (text : String) : Except FormatFault Json :=
  match format with
  | .json =>
    match Json.read text with
    | .ok value => .ok value
    | .error reason => .error (.json reason)
  | .xml =>
    match Xml.read text with
    | .ok _ => .ok (.string text)
    | .error fault => .error (.xml fault)

/-- A payload, the format it was in, and whether that was not the preferred one. -/
structure Decoded where
  format : Format
  payload : Json
  usedFallback : Bool := false

/-- A text in neither format, with the reason why it is not in the second. -/
structure Undecodable where
  preferred : Format
  reason : FormatFault
  deriving DecidableEq, Repr

def Undecodable.message (failure : Undecodable) : String :=
  let preferred := failure.preferred
  s!"Response is neither valid {preferred.name} nor {preferred.other.name}: " ++
    failure.reason.message

/-- Whether there is nothing to decode. -/
def isAbsent (text? : Option String) : Bool := text?.all isBlankText

/-- Decodes a text. -/
def decode (text? : Option String) (preferred : Format) : Except Undecodable Decoded :=
  if isAbsent text? then .ok ⟨preferred, .null, false⟩
  else
    let text := text?.getD ""
    match readAs preferred text with
    | .ok payload => .ok ⟨preferred, payload, false⟩
    | .error _ =>
      match readAs preferred.other text with
      | .ok payload => .ok ⟨preferred.other, payload, true⟩
      | .error reason => .error ⟨preferred, reason⟩

/-- The log of decoding a text. -/
def decodeLog (text? : Option String) (preferred : Format) : List Log.Entry :=
  if isAbsent text? then []
  else
    match readAs preferred (text?.getD "") with
    | .ok _ => []
    | .error reason =>
      [.info (s!"Response is not valid {preferred.name}, trying {preferred.other.name}: " ++
        reason.message)]

end ODataExplorer.Payload
