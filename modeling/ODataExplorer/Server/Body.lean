import ODataExplorer.Charset.Basic
import ODataExplorer.Json.Reader
import ODataExplorer.Server.Message
import ODataExplorer.Validation.Complaint

/-!
The bodies of requests.

A body is JSON if its content type says so or if there is no content type. JSON may come in any
Unicode encoding; a mark or the zeros among the first bytes tell which.
-/

namespace ODataExplorer.Server

open Text Validation

/-- The main type and the subtype of a content type, in lower case. -/
def mediaType? (contentType : String) : Option (String × String) :=
  let plain := lower (String.ofList (trimWhile isBlank (beforeFirst ';' contentType.toList)))
  match pieces '/' plain.toList with
  | [main, sub] => some (String.ofList main, String.ofList sub)
  | _ => none

/-- Whether a content type is one of JSON. -/
def isJsonType (contentType : String) : Bool :=
  match mediaType? contentType with
  | some (main, sub) =>
    main == "application" && (sub == "json" || endsWith "+json".toList sub.toList)
  | none => false

/-- The encoding of JSON in bytes, without the mark. -/
def jsonEncoding (bytes : List UInt8) : Charset :=
  match bytes with
  | 0 :: 0 :: 0xFE :: 0xFF :: _ => .utf32 none
  | 0xFF :: 0xFE :: 0 :: 0 :: _ => .utf32 none
  | 0xFE :: 0xFF :: _ => .utf16 none
  | 0xFF :: 0xFE :: _ => .utf16 none
  | 0xEF :: 0xBB :: 0xBF :: _ => .utf8WithMark
  | 0 :: 0 :: _ :: _ :: _ => .utf32 (some true)
  | 0 :: _ :: _ :: _ :: _ => .utf16 (some true)
  | _ :: 0 :: 0 :: 0 :: _ => .utf32 (some false)
  | _ :: 0 :: _ :: _ :: _ => .utf16 (some false)
  | [0, _] => .utf16 (some true)
  | [_, 0] => .utf16 (some false)
  | _ => .utf8

/-- The text of JSON in bytes, if the bytes are right. -/
def jsonText? (bytes : List UInt8) : Option String :=
  let decoded? :=
    match jsonEncoding bytes with
    | .utf8WithMark => Utf8.decode? (bytes.drop 3)
    | .utf16 order =>
      if bytes.length % 2 == 0 then ((Charset.utf16 order).text? bytes).toOption else none
    | .utf32 order =>
      if bytes.length % 4 == 0 then ((Charset.utf32 order).text? bytes).toOption else none
    | _ => Utf8.decode? bytes
  decoded?.map String.ofList

/-- What a request has to say. -/
inductive Body where
  | absent
  | json (value : Json)
  /-- A body that is no JSON. -/
  | other

/-- Why a body cannot be read. -/
inductive BodyFault where
  /-- It is no JSON from some character on. -/
  | broken (offset : Nat)
  /-- Its bytes or a number in it make no sense, or it is nested too deep. -/
  | unreadable
  deriving DecidableEq, Repr

/-- Reads the body of a request in a room. -/
def readBody (room : Room) (request : Request) : Except BodyFault Body :=
  let contentType := (request.header? "content-type").getD ""
  if request.body.isEmpty then .ok .absent
  else if !contentType.isEmpty && !isJsonType contentType then .ok .other
  else
    match jsonText? request.body with
    | none => .error .unreadable
    | some text =>
      match Json.readWithin room text with
      | .ok value => .ok (.json value)
      | .error (.malformed _ position) => .error (.broken position.offset)
      | .error (.integer _) | .error (.tooDeep _) => .error .unreadable

/-- The response to complaints about a request. -/
def complaintsResponse (complaints : List Complaint) : Response :=
  .ofDetail 422 (.array (complaints.map Complaint.toJson))

/-- Where complaints about a body start. -/
def bodyStep : Step := .field "body"

/-- The response to a body that cannot be read. -/
def BodyFault.response : BodyFault → Response
  | .broken offset => complaintsResponse [⟨[bodyStep, .index offset], .brokenJson⟩]
  | .unreadable => .ofDetail 400 (.string "There was an error parsing the body")

/-- Checks a body. -/
def Body.check {α : Type} (read : Json → Checked α) (body : Body) : Checked α :=
  within bodyStep
    (match body with
      | .absent => refuse .missing
      | .other => refuse .attributes
      | .json value => read value)

end ODataExplorer.Server
