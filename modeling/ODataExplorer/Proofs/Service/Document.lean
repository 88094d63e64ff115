import ODataExplorer.Service.Metadata

/-!
Requests for a model.

A request with content is answered by it, and one without by what comes of a single fetch.
-/

namespace ODataExplorer.Service

open Text

variable (room : Room) (request : Validation.ParseRequest)

/-- A request that holds a document is answered by it, whatever else it holds. -/
theorem parse_of_content (hcontent : (contentOf request).isEmpty = false) :
    parse room request = .answer (answerDocument room none (contentOf request)) := by
  rw [parse, hcontent]
  exact if_neg Bool.false_ne_true

/-- A request that holds none is answered by what comes of fetching one. -/
theorem value_run_parse {σ : Type} {source : Source σ Wording} {state : σ} {url : String}
    (hempty : (contentOf request).isEmpty = true)
    (hurl : Query.metadataUrl (request.url?.getD "") = .ok url) :
    ((parse room request).run source state).1.value =
      (answerFetched room url (source url state).1.value).value := by
  rw [parse, hempty, if_pos rfl, hurl]
  rfl

/-- What becomes of a document that is given: its model, or the problem with it. -/
theorem value_answerDocument (place? : Option String) (content : Wording) :
    (answerDocument room place? content).value =
      match Csdl.parseGiven room (some content) with
      | .ok model => .ok ⟨model, place?, place?.map Query.serviceRoot⟩
      | .error fault => .error (.ofDocument fault) := by
  rw [answerDocument, Csdl.parseGiven]
  cases Csdl.readGiven room (some content) <;> rfl

end ODataExplorer.Service
