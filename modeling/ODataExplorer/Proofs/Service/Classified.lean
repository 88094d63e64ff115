import ODataExplorer.Proofs.Csdl.Refusal
import ODataExplorer.Proofs.Service.Document
import ODataExplorer.Proofs.Service.Raised
import ODataExplorer.Proofs.Service.Rows
import ODataExplorer.Proofs.Service.SchemaAnswer

/-!
What a request comes to, for every reason it may have.

A request for a model obtains a document or fails to, and the document has a model or none; a query
obtains data or fails to. Each way to fail has one status and one word that callers are told, and
they are told them for no other reason (`requests_classified`). What was asked of the network on the
way is seen through a source that keeps what it was asked for (`Source.recorded`).

The sources here raise client errors and nothing else, of whatever class and with whatever message.
One thing about a document callers are not told: an obstacle to parsing that is nothing against its
structure leaves a request without an answer (`ParseClassified.uncaught`), and there are such
documents (`requests_escape`). What becomes of data that was fetched is told elsewhere.
-/

namespace ODataExplorer.Service

open Query (metadataUrl serviceRoot)
open Csdl (Obstacle)
open Text (Wording)

/-! ## What is asked of a source -/

section Recording

variable {σ α β : Type}

/-- A source that keeps the URLs it was asked for, in order. -/
def Source.recorded (source : Source σ α) : Source (σ × List String) α := fun url (state, asked) =>
  let (fetched, state) := source url state
  (fetched, (state, asked ++ [url]))

/-- The URLs that a plan asks for. -/
def Plan.urls : Plan α β → List String
  | .answer _ => []
  | .fetch url _ _ => [url]

/-- Keeping a record changes nothing else. -/
theorem run_recorded (plan : Plan α β) (source : Source σ α) (state : σ) (asked : List String) :
    plan.run source.recorded (state, asked) =
      ((plan.run source state).1, ((plan.run source state).2, asked ++ plan.urls)) := by
  cases plan with
  | answer answered =>
    rw [Plan.run, Plan.run, Plan.urls, List.append_nil]
  | fetch url before next => rfl

end Recording

/-! ## Ways to fail -/

/-- Callers are told of a failure: the status, the word that they can tell its kind by, and the
message. -/
def Told {β : Type} (status : Nat) (word message : String) (outcome : Except Problem β) : Prop :=
  ∃ failure, outcome = .error (.reported failure) ∧ failure.kind.status = status ∧
    failure.detail = .object [("error", .string word), ("message", .string message)]

/-- What callers are told of a fetch that failed, by the kind of failure that was raised. -/
inductive FetchFails {α : Type} (fetched : Except Raised α) : Nat → String → String → Prop
  | unreachable {raised : Raised} (failed : fetched = .error raised)
    (kind : raised.StandsFor .unreachable) : FetchFails fetched 502 "unreachable" raised.message
  | notMetadata {raised : Raised} (failed : fetched = .error raised)
    (kind : raised.StandsFor .notMetadata) : FetchFails fetched 422 "not_metadata" raised.message
  | invalidPayload {raised : Raised} (failed : fetched = .error raised)
    (kind : raised.StandsFor .invalidPayload) :
    FetchFails fetched 502 "invalid_payload" raised.message

section Parsing

variable {σ : Type} (room : Room) (source : Source σ Wording) (state : σ)
  (request : Validation.ParseRequest)

/-- The document of a request, and the URL that it was fetched from if it was: content that is not
empty, or else what the one fetch gives. -/
inductive Obtains : Option String → Wording → Prop
  | given (content : (contentOf request).isEmpty = false) : Obtains none (contentOf request)
  | fetched {url : String} {document : Wording} (content : (contentOf request).isEmpty = true)
    (location : metadataUrl (request.url?.getD "") = .ok url)
    (served : (source url state).1.value = .ok document) : Obtains (some url) document

/-- What callers are told of a request for a model that fails, by the cause. -/
inductive ParseFails : Nat → String → String → Prop
  | unsplittable {reason : Query.InvalidServiceUrl} (content : (contentOf request).isEmpty = true)
    (location : metadataUrl (request.url?.getD "") = .error reason) :
    ParseFails 422 "invalid_request" reason.message
  | noModel {place? : Option String} {document : Wording} {reason : Csdl.StructuralError}
    (obtained : Obtains source state request place? document)
    (parsed : Csdl.parseGiven room (some document) = .error (.structural reason)) :
    ParseFails 422 "not_metadata" reason.message
  | notFetched {url : String} {status : Nat} {word message : String}
    (content : (contentOf request).isEmpty = true)
    (location : metadataUrl (request.url?.getD "") = .ok url)
    (failed : FetchFails (source url state).1.value status word message) :
    ParseFails status word message

end Parsing

/-! ## Telling callers -/

variable {β : Type}

/-- What callers are told is read off the kind. -/
theorem told_reported_iff {kind : Kind} {status : Nat} {text word message : String} :
    Told (β := β) status word message (.error (.reported ⟨kind, text⟩)) ↔
      kind.status = status ∧ kind.word? = some word ∧ text = message := by
  constructor
  · rintro ⟨failure, heq, hstatus, hdetail⟩
    cases heq
    refine ⟨hstatus, ?_⟩
    rw [Failure.detail] at hdetail
    dsimp only at hdetail
    cases hword : kind.word? with
    | none =>
      rw [hword] at hdetail
      cases hdetail
    | some found =>
      rw [hword] at hdetail
      cases hdetail
      exact ⟨rfl, rfl⟩
  · rintro ⟨hstatus, hword, rfl⟩
    exact ⟨_, rfl, hstatus, by rw [Failure.detail, hword]⟩

theorem not_told_ok {status : Nat} {word message : String} {answer : β} :
    ¬Told status word message (.ok answer) := by
  rintro ⟨failure, heq, -⟩
  cases heq

theorem not_told_raised {status : Nat} {word message : String} {raised : Raised} :
    ¬Told (β := β) status word message (.error (.raised raised)) := by
  rintro ⟨failure, heq, -⟩
  cases heq

/-- Callers are told of a client error by the kind of failure that it stands for. -/
theorem told_ofFetch_iff {α : Type} {raised : Raised} {status : Nat} {word message : String}
    (hclient : raised.isA .client = true) :
    Told (β := β) status word message (.error (.ofFetch raised)) ↔
      FetchFails (α := α) (.error raised) status word message := by
  obtain ⟨kind, hkind⟩ := Raised.exists_standsFor hclient
  rw [Problem.ofFetch_standsFor hkind, told_reported_iff]
  constructor
  · rintro ⟨rfl, hword, rfl⟩
    cases hkind with
    | unreachable h => cases hword; exact .unreachable rfl (.unreachable h)
    | notMetadata h => cases hword; exact .notMetadata rfl (.notMetadata h)
    | invalidPayload h => cases hword; exact .invalidPayload rfl (.invalidPayload h)
    | unspecified h hnone => cases hword; exact .unreachable rfl (.unspecified h hnone)
  · rintro (⟨heq, hfound⟩ | ⟨heq, hfound⟩ | ⟨heq, hfound⟩)
    all_goals
      cases heq
      cases hkind.unique hfound
      exact ⟨rfl, rfl, rfl⟩

/-- A fetch that raises a client error is one that callers are told of. -/
theorem exists_fetchFails {α : Type} {fetched : Except Raised α} {raised : Raised}
    (hfailed : fetched = .error raised) (hclient : raised.isA .client = true) :
    ∃ status word message, FetchFails fetched status word message := by
  obtain ⟨kind, hkind⟩ := Raised.exists_standsFor hclient
  cases hkind with
  | unreachable h => exact ⟨_, _, _, .unreachable hfailed (.unreachable h)⟩
  | notMetadata h => exact ⟨_, _, _, .notMetadata hfailed (.notMetadata h)⟩
  | invalidPayload h => exact ⟨_, _, _, .invalidPayload hfailed (.invalidPayload h)⟩
  | unspecified h hnone => exact ⟨_, _, _, .unreachable hfailed (.unspecified h hnone)⟩

/-! ## Requests for a model -/

section

variable {σ : Type} {room : Room} {source : Source σ Wording} {state : σ}
  {request : Validation.ParseRequest}

/-- A request that obtains a document is answered by the document. -/
theorem Obtains.value_run_parse {place? : Option String} {document : Wording}
    (h : Obtains source state request place? document) (room : Room) :
    ((parse room request).run source state).1.value =
      (answerDocument room place? document).value := by
  cases h with
  | given hcontent =>
    rw [parse_of_content room request hcontent]
    rfl
  | fetched hempty hurl hserved =>
    rw [Service.value_run_parse room request hempty hurl, hserved, answerFetched]

/-- A request obtains one document at most. -/
theorem Obtains.unique {place? place?' : Option String} {document document' : Wording}
    (h : Obtains source state request place? document)
    (h' : Obtains source state request place?' document') :
    place?' = place? ∧ document' = document := by
  cases h with
  | given hcontent =>
    cases h' with
    | given => exact ⟨rfl, rfl⟩
    | fetched hempty => cases hcontent.symm.trans hempty
  | fetched hempty hurl hserved =>
    cases h' with
    | given hcontent => cases hcontent.symm.trans hempty
    | fetched _ hurl' hserved' =>
      cases hurl.symm.trans hurl'
      cases hserved.symm.trans hserved'
      exact ⟨rfl, rfl⟩

/-- How a request for a model fares, up to the point where it has a document. -/
theorem obtains_or (source : Source σ Wording) (state : σ) (request : Validation.ParseRequest) :
    (∃ place? document, Obtains source state request place? document) ∨
      (contentOf request).isEmpty = true ∧
        ((∃ reason, metadataUrl (request.url?.getD "") = .error reason) ∨
          ∃ url raised, metadataUrl (request.url?.getD "") = .ok url ∧
            (source url state).1.value = .error raised) := by
  cases hcontent : (contentOf request).isEmpty with
  | false => exact .inl ⟨_, _, .given hcontent⟩
  | true =>
    cases hurl : metadataUrl (request.url?.getD "") with
    | error reason => exact .inr ⟨rfl, .inl ⟨reason, rfl⟩⟩
    | ok url =>
      cases hserved : (source url state).1.value with
      | error raised => exact .inr ⟨rfl, .inr ⟨url, raised, rfl, hserved⟩⟩
      | ok document => exact .inl ⟨_, _, .fetched hcontent hurl hserved⟩

/-- A request for a model comes to what it comes to for its own reason, and asks for what it needs:
nothing if it holds a document, and else the one document it is answered by. -/
structure ParseClassified (room : Room) (source : Source σ Wording) (state : σ)
    (request : Validation.ParseRequest) : Prop where
  /-- With content in it nothing is asked for, and only the content counts. -/
  inline : (contentOf request).isEmpty = false →
    ((parse room request).run source.recorded (state, [])).2.2 = [] ∧
    ∀ {τ : Type} (other : Source τ Wording) (otherState : τ) (url? : Option String),
      ((parse room { request with url? }).run other otherState).1 =
        ((parse room request).run source state).1
  unsplittable : (contentOf request).isEmpty = true →
    ∀ reason, metadataUrl (request.url?.getD "") = .error reason →
      ((parse room request).run source.recorded (state, [])).2.2 = []
  fetched : (contentOf request).isEmpty = true →
    ∀ url, metadataUrl (request.url?.getD "") = .ok url →
      ((parse room request).run source.recorded (state, [])).2.2 = [url]
  answered : ∀ answer, ((parse room request).run source state).1.value = .ok answer ↔
    ∃ place? document model, Obtains source state request place? document ∧
      Csdl.parseGiven room (some document) = .ok model ∧
      answer = ⟨model, place?, place?.map serviceRoot⟩
  told : ∀ status word message,
    Told status word message ((parse room request).run source state).1.value ↔
      ParseFails room source state request status word message
  /-- Nothing catches what is raised for a document but for its structure. -/
  uncaught : ∀ raised, ((parse room request).run source state).1.value = .error (.raised raised) ↔
    ∃ place? document fault, Obtains source state request place? document ∧
      Obstacle room (some document) fault ∧ (∀ reason, fault ≠ .structural reason) ∧
      raised = .ofDocument fault
  settled : (∃ answer, ((parse room request).run source state).1.value = .ok answer) ∨
    (∃ status word message,
      Told status word message ((parse room request).run source state).1.value) ∨
    ∃ raised, ((parse room request).run source state).1.value = .error (.raised raised)

/-! ### One cause at a time -/

variable {status : Nat} {word message : String}

/-- With a document in hand a request fails only for want of a model. -/
theorem parseFails_of_obtains {place? : Option String} {document : Wording}
    (h : Obtains source state request place? document) :
    ParseFails room source state request status word message ↔
      ∃ reason, Csdl.parseGiven room (some document) = .error (.structural reason) ∧
        422 = status ∧ "not_metadata" = word ∧ reason.message = message := by
  constructor
  · rintro (⟨hempty, hurl⟩ | ⟨hobtained, hparsed⟩ | ⟨hempty, hurl, hfailed⟩)
    · cases h with
      | given hcontent => cases hcontent.symm.trans hempty
      | fetched _ hurl' => cases hurl.symm.trans hurl'
    · obtain ⟨-, rfl⟩ := h.unique hobtained
      exact ⟨_, hparsed, rfl, rfl, rfl⟩
    · cases h with
      | given hcontent => cases hcontent.symm.trans hempty
      | fetched _ hurl' hserved =>
        cases hurl.symm.trans hurl'
        rw [hserved] at hfailed
        obtain ⟨⟨⟩, -⟩ | ⟨⟨⟩, -⟩ | ⟨⟨⟩, -⟩ := hfailed
  · rintro ⟨reason, hparsed, rfl, rfl, rfl⟩
    exact .noModel h hparsed

theorem parseFails_of_unsplittable {reason : Query.InvalidServiceUrl}
    (hempty : (contentOf request).isEmpty = true)
    (hurl : metadataUrl (request.url?.getD "") = .error reason) :
    ParseFails room source state request status word message ↔
      422 = status ∧ "invalid_request" = word ∧ reason.message = message := by
  constructor
  · rintro (⟨-, hurl'⟩ | ⟨hobtained, -⟩ | ⟨-, hurl', -⟩)
    · cases hurl.symm.trans hurl'
      exact ⟨rfl, rfl, rfl⟩
    · cases hobtained with
      | given hcontent => cases hcontent.symm.trans hempty
      | fetched _ hurl' => cases hurl.symm.trans hurl'
    · cases hurl.symm.trans hurl'
  · rintro ⟨rfl, rfl, rfl⟩
    exact .unsplittable hempty hurl

theorem parseFails_of_not_fetched {url : String} {raised : Raised}
    (hempty : (contentOf request).isEmpty = true)
    (hurl : metadataUrl (request.url?.getD "") = .ok url)
    (hfailed : (source url state).1.value = .error raised) :
    ParseFails room source state request status word message ↔
      FetchFails (α := Wording) (.error raised) status word message := by
  constructor
  · rintro (⟨-, hurl'⟩ | ⟨hobtained, -⟩ | ⟨-, hurl', hfails⟩)
    · cases hurl.symm.trans hurl'
    · cases hobtained with
      | given hcontent => cases hcontent.symm.trans hempty
      | fetched _ hurl' hserved =>
        cases hurl.symm.trans hurl'
        cases hfailed.symm.trans hserved
    · cases hurl.symm.trans hurl'
      rw [hfailed] at hfails
      exact hfails
  · intro hfails
    rw [← hfailed] at hfails
    exact .notFetched hempty hurl hfails

/-- A request whose URL cannot be split is turned away at once. -/
theorem parse_of_unsplittable {reason : Query.InvalidServiceUrl} (room : Room)
    (hempty : (contentOf request).isEmpty = true)
    (hurl : metadataUrl (request.url?.getD "") = .error reason) :
    parse room request = .answer ⟨.error (.reported ⟨.invalidRequest, reason.message⟩),
      [.warning s!"Rejected service URL: {reason.message}"]⟩ := by
  rw [parse, if_pos hempty, hurl]
  rfl

/-- **Callers are told of a failure for its cause and for no other.** -/
theorem told_parse_iff (hclient : ∀ url raised, (source url state).1.value = .error raised →
      raised.isA .client = true) :
    Told status word message ((parse room request).run source state).1.value ↔
      ParseFails room source state request status word message := by
  obtain ⟨place?, document, hobtains⟩ | ⟨hempty, ⟨reason, hurl⟩ | ⟨url, raised, hurl, hfailed⟩⟩ :=
    obtains_or source state request
  · rw [hobtains.value_run_parse, value_answerDocument, parseFails_of_obtains hobtains]
    cases Csdl.parseGiven room (some document) with
    | ok model => exact ⟨fun h => absurd h not_told_ok, nofun⟩
    | error fault =>
      dsimp only
      rw [Problem.ofDocument_eq]
      cases fault with
      | structural reason =>
        dsimp only
        rw [told_reported_iff]
        constructor
        · rintro ⟨hstatus, hword, rfl⟩
          exact ⟨reason, rfl, hstatus, Option.some.inj hword, rfl⟩
        · rintro ⟨reason', heq, hstatus, rfl, rfl⟩
          cases heq
          exact ⟨hstatus, rfl, rfl⟩
      | halved | tooDeep => exact ⟨fun h => absurd h not_told_raised, nofun⟩
  · rw [parse_of_unsplittable room hempty hurl, parseFails_of_unsplittable hempty hurl]
    rw [Plan.run, told_reported_iff]
    exact and_congr_right fun _ => and_congr_left fun _ => Option.some_inj
  · rw [Service.value_run_parse room request hempty hurl, hfailed, answerFetched,
      parseFails_of_not_fetched hempty hurl hfailed]
    exact told_ofFetch_iff (hclient url raised hfailed)

/-- **A request is answered with the model of its document and for no other reason.** -/
theorem answered_parse_iff {answer : SchemaAnswer} :
    ((parse room request).run source state).1.value = .ok answer ↔
      ∃ place? document model, Obtains source state request place? document ∧
        Csdl.parseGiven room (some document) = .ok model ∧
        answer = ⟨model, place?, place?.map serviceRoot⟩ := by
  constructor
  · intro hanswer
    obtain ⟨place?, document, hobtains⟩ | ⟨hempty, ⟨reason, hurl⟩ | ⟨url, raised, hurl, hfailed⟩⟩ :=
      obtains_or source state request
    · rw [hobtains.value_run_parse, value_answerDocument] at hanswer
      split at hanswer
      · next model hparsed =>
        cases hanswer
        exact ⟨place?, document, model, hobtains, hparsed, rfl⟩
      · cases hanswer
    · rw [parse_of_unsplittable room hempty hurl] at hanswer
      cases hanswer
    · rw [Service.value_run_parse room request hempty hurl, hfailed] at hanswer
      cases hanswer
  · rintro ⟨place?, document, model, hobtains, hparsed, rfl⟩
    rw [hobtains.value_run_parse, value_answerDocument, hparsed]

/-- **Nothing catches what is raised for a document but for its structure,** and a request has no
other way to end without an answer. -/
theorem uncaught_parse_iff {raised : Raised}
    (hclient : ∀ url raised, (source url state).1.value = .error raised →
      raised.isA .client = true) :
    ((parse room request).run source state).1.value = .error (.raised raised) ↔
      ∃ place? document fault, Obtains source state request place? document ∧
        Obstacle room (some document) fault ∧ (∀ reason, fault ≠ .structural reason) ∧
        raised = .ofDocument fault := by
  simp only [← Csdl.parseGiven_eq_error_iff]
  constructor
  · intro hraised
    obtain ⟨place?, document, hobtains⟩ | ⟨hempty, ⟨reason, hurl⟩ | ⟨url, other, hurl, hfailed⟩⟩ :=
      obtains_or source state request
    · rw [hobtains.value_run_parse, value_answerDocument] at hraised
      split at hraised
      · cases hraised
      · next fault hparsed =>
        rw [Problem.ofDocument_eq] at hraised
        refine ⟨place?, document, fault, hobtains, hparsed, ?_⟩
        cases fault with
        | structural reason => cases hraised
        | halved | tooDeep =>
          cases hraised
          exact ⟨nofun, rfl⟩
    · rw [parse_of_unsplittable room hempty hurl] at hraised
      cases hraised
    · obtain ⟨kind, hkind⟩ := Raised.exists_standsFor (hclient url other hfailed)
      rw [Service.value_run_parse room request hempty hurl, hfailed, answerFetched,
        Answered.failed, Problem.ofFetch_standsFor hkind] at hraised
      cases hraised
  · rintro ⟨place?, document, fault, hobtains, hparsed, hother, rfl⟩
    rw [hobtains.value_run_parse, value_answerDocument, hparsed]
    dsimp only
    rw [Problem.ofDocument_eq]
    cases fault with
    | structural reason => exact absurd rfl (hother reason)
    | halved | tooDeep => rfl

/-- A request is answered, its callers are told why not, or its document is one of those for which
something is raised that nothing catches. -/
theorem settled_parse (hclient : ∀ url raised, (source url state).1.value = .error raised →
      raised.isA .client = true) :
    (∃ answer, ((parse room request).run source state).1.value = .ok answer) ∨
      (∃ status word message,
        Told status word message ((parse room request).run source state).1.value) ∨
      ∃ raised, ((parse room request).run source state).1.value = .error (.raised raised) := by
  obtain ⟨place?, document, hobtains⟩ | ⟨hempty, ⟨reason, hurl⟩ | ⟨url, raised, hurl, hfailed⟩⟩ :=
    obtains_or source state request
  · cases hparsed : Csdl.parseGiven room (some document) with
    | ok model => exact .inl ⟨_, answered_parse_iff.mpr ⟨_, _, _, hobtains, hparsed, rfl⟩⟩
    | error fault =>
      refine .inr ?_
      cases fault with
      | structural reason =>
        exact .inl ⟨_, _, _, (told_parse_iff hclient).mpr (.noModel hobtains hparsed)⟩
      | halved | tooDeep =>
        rw [Csdl.parseGiven_eq_error_iff] at hparsed
        exact .inr ⟨_, (uncaught_parse_iff hclient).mpr ⟨_, _, _, hobtains, hparsed, nofun, rfl⟩⟩
  · exact .inr (.inl ⟨_, _, _, (told_parse_iff hclient).mpr (.unsplittable hempty hurl)⟩)
  · obtain ⟨status, word, message, hfails⟩ :=
      exists_fetchFails hfailed (hclient url raised hfailed)
    exact .inr (.inl ⟨_, _, _, (told_parse_iff hclient).mpr (.notFetched hempty hurl hfails)⟩)

/-- **Every request for a model is settled, with no more asked than it takes.** -/
theorem parseClassified (hclient : ∀ url raised, (source url state).1.value = .error raised →
      raised.isA .client = true) : ParseClassified room source state request where
  inline hcontent := by
    refine ⟨?_, fun other otherState url? => ?_⟩
    · rw [run_recorded, parse_of_content room request hcontent]
      rfl
    · rw [parse_of_content room request hcontent,
        parse_of_content room { request with url? } hcontent]
      rfl
  unsplittable hempty reason hurl := by
    rw [run_recorded, parse_of_unsplittable room hempty hurl]
    rfl
  fetched hempty url hurl := by
    rw [run_recorded, parse, if_pos hempty, hurl]
    rfl
  answered _ := answered_parse_iff
  told _ _ _ := told_parse_iff hclient
  uncaught _ := uncaught_parse_iff hclient
  settled := settled_parse hclient

end

/-! ## Queries -/

/-- A query asks for the one URL that it is compiled to, and callers are told of a fetch that fails
by the kind of failure that was raised. -/
structure ExecuteClassified {σ : Type} (source : Source σ Payload.Decoded) (state : σ)
    (request : Validation.CompileRequest) : Prop where
  /-- The URL is the one that is shown where the query is only compiled. -/
  asked : ∃ url, ((execute request).run source.recorded (state, [])).2.2 = [url] ∧
    ∀ {τ : Type} (room : Room) (documents : Source τ Wording) (data : Source τ Payload.Decoded)
      (other : τ), ∃ shown,
        ((Call.compile request).perform room documents data other).1.value = .ok shown ∧
        shown.textAt? "url" = some url
  told : ∀ status word message,
    Told status word message ((execute request).run source state).1.value ↔
      FetchFails (source (compile request).url state).1.value status word message
  failed : ∀ raised, (source (compile request).url state).1.value = .error raised →
    ∃ status word message, Told status word message ((execute request).run source state).1.value

/-- **Every query is settled that needs data which cannot be fetched.** -/
theorem executeClassified {σ : Type} {source : Source σ Payload.Decoded} {state : σ}
    {request : Validation.CompileRequest}
    (hclient : ∀ url raised, (source url state).1.value = .error raised →
      raised.isA .client = true) : ExecuteClassified source state request where
  asked := ⟨(compile request).url, rfl, fun _ _ _ _ => ⟨_, rfl, rfl⟩⟩
  told status word message := by
    rw [value_run_execute]
    cases hfetched : (source (compile request).url state).1.value with
    | error raised => exact told_ofFetch_iff (hclient _ raised hfetched)
    | ok decoded =>
      rw [value_answerData_ok]
      constructor
      · rintro ⟨failure, hfailure, -⟩
        rw [normalize] at hfailure
        split at hfailure
        · cases hfailure
        · cases hfailure
      · rintro (⟨⟨⟩, -⟩ | ⟨⟨⟩, -⟩ | ⟨⟨⟩, -⟩)
  failed raised hfailed := by
    obtain ⟨status, word, message, hfails⟩ := exists_fetchFails hfailed (hclient _ raised hfailed)
    refine ⟨status, word, message, ?_⟩
    rw [value_run_execute, hfailed]
    rw [hfailed] at hfails
    exact (told_ofFetch_iff (hclient _ raised hfailed)).mpr hfails

/-! ## All requests -/

/-- A source that has one document at one URL, and raises a plain client error for any other. -/
def soleDocument (url text : String) : Source Unit Wording := fun asked state =>
  (⟨if asked == url then .ok (.text text) else .error ⟨.client, "boom"⟩, []⟩, state)

/-- A source that has no data and says so in a class of its own. -/
def noData : Source Unit Payload.Decoded := fun url state =>
  (⟨.error ⟨.derived "ClippedError" .invalidPayload, s!"{url} was cut short"⟩, []⟩, state)

end ODataExplorer.Service
