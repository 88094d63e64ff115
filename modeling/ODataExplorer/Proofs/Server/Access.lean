import ODataExplorer.Proofs.Text.Split
import ODataExplorer.Server.Host

/-!
Who gets a host to carry out a call.

A request to an endpoint passes its gates or is refused there, and what the gates decide depends on
the request alone (`value_passGates`). The call that a host carries out for a request is `call?`,
and nothing else that it does touches the network (`traffic_respond`).

Main statement: a request without the valid token is refused, whatever came before it, and leaves
nothing that a later response would show (`refused_without_token`). The log is left out of this: the
warning about the token for development is given to whoever comes first with a token.
-/

namespace ODataExplorer.Server

open Text Log Service
open Settings (developmentToken)

variable {settings : Settings.Interface} {endpoint : Endpoint} {request : Request} {host : Host}

/-! ## Carrying a token -/

/-- A request carries a token: its first authorization header holds the word for the scheme, in
upper or lower case, and after the first space the token. Blanks around it do not count, and blanks
alone are no token. -/
def Request.Carries (token : String) (request : Request) : Prop :=
  token ≠ "" ∧ ∃ scheme credentials : List Char, ' ' ∉ scheme ∧
    request.header? "authorization" = some (String.ofList (scheme ++ ' ' :: credentials)) ∧
    asciiLowerText (String.ofList scheme) = bearerScheme ∧ trim (String.ofList credentials) = token

theorem bearerToken?_eq_some_iff {token : String} :
    bearerToken? request = some token ↔ request.Carries token := by
  unfold bearerToken? Request.Carries
  simp only [Option.bind_eq_bind, Option.bind_eq_some_iff]
  constructor
  · rintro ⟨value, hvalue, ⟨scheme, credentials⟩, hcut, htoken⟩
    obtain ⟨hspace, hchars⟩ := cut?_eq_some_iff.mp hcut
    dsimp only at htoken
    split at htoken
    · next hgood =>
      cases htoken
      rw [Bool.and_eq_true, beq_iff_eq, Bool.not_eq_true', String.isEmpty_eq_false_iff] at hgood
      refine ⟨hgood.2, scheme, credentials, hspace, ?_, hgood.1, rfl⟩
      rw [hvalue, ← hchars, String.ofList_toList]
    · cases htoken
  · rintro ⟨hne, scheme, credentials, hspace, hvalue, hscheme, rfl⟩
    refine ⟨_, hvalue, (scheme, credentials), ?_, ?_⟩
    · rw [String.toList_ofList]
      exact cut?_append hspace credentials
    · dsimp only
      rw [if_pos]
      rw [Bool.and_eq_true, beq_iff_eq, Bool.not_eq_true', String.isEmpty_eq_false_iff]
      exact ⟨hscheme, hne⟩

instance (token : String) (request : Request) : Decidable (request.Carries token) :=
  decidable_of_iff _ bearerToken?_eq_some_iff

/-! ## The gates -/

/-- The log of a first step is nothing to a second one. -/
theorem value_bind {α β : Type} (logged : Logged α) (next : α → Logged β) :
    (logged >>= next).value = (next logged.value).value := rfl

/-- What is decided about the token of a request. -/
def tokenFault? (settings : Settings.Interface) (request : Request) : Option TokenFault :=
  match bearerToken? request with
  | none => some .absent
  | some token => if token == settings.token then none else some .wrong

theorem tokenFault?_eq_none_iff :
    tokenFault? settings request = none ↔ request.Carries settings.token := by
  rw [← bearerToken?_eq_some_iff, tokenFault?]
  cases bearerToken? request with
  | none => exact ⟨nofun, nofun⟩
  | some token =>
    rw [Option.some_inj]
    by_cases heq : token = settings.token
    · simp only [heq, beq_self_eq_true, if_true]
    · simp only [beq_eq_false_iff_ne.mpr heq, Bool.false_eq_true, if_false, heq, reduceCtorEq]

/-- The warning does not matter to what is decided about a token. -/
theorem value_authenticate (settings : Settings.Interface) (request : Request) (warning : Warning) :
    (authenticate settings request warning).value.1 =
      match tokenFault? settings request with
      | none => .ok ()
      | some fault => .error fault := by
  rw [authenticate, tokenFault?]
  cases bearerToken? request with
  | none => rfl
  | some token =>
    dsimp only
    rw [checkToken, value_bind]
    split <;> rfl

/-- What the gates of an endpoint decide about a request. -/
def Host.pass (host : Host) (endpoint : Endpoint) (request : Request) : Except Response Call :=
  match if endpoint.takesBody then readBody host.client.room request else .ok .absent with
  | .error fault => .error fault.response
  | .ok body =>
    match tokenFault? host.settings request with
    | some fault => .error fault.response
    | none =>
      match endpoint.call request body with
      | .error complaints => .error (complaintsResponse complaints)
      | .ok call => .ok call

/-- **The gates decide alike whatever came before.** -/
theorem value_passGates (warning : Warning) :
    (host.passGates endpoint request warning).value.1 = host.pass endpoint request := by
  rw [Host.passGates, Host.pass]
  cases if endpoint.takesBody then readBody host.client.room request else .ok .absent with
  | error fault => rfl
  | ok body =>
    have hchecked := value_authenticate host.settings request warning
    dsimp only
    rw [value_bind]
    generalize (authenticate host.settings request warning).value = checked at hchecked ⊢
    obtain ⟨outcome, warning⟩ := checked
    subst hchecked
    cases tokenFault? host.settings request with
    | some fault => rfl
    | none => cases endpoint.call request body <;> rfl

/-- A request gets through exactly when its body can be read, it carries the valid token, and it
says what the endpoint asks for. -/
theorem Host.pass_eq_ok_iff {call : Call} :
    host.pass endpoint request = .ok call ↔
      ∃ body, (if endpoint.takesBody then readBody host.client.room request else .ok .absent) =
          .ok body ∧
        request.Carries host.settings.token ∧ endpoint.call request body = .ok call := by
  rw [Host.pass, ← tokenFault?_eq_none_iff]
  cases if endpoint.takesBody then readBody host.client.room request else .ok .absent with
  | error fault => simp only [reduceCtorEq, false_and, exists_false]
  | ok body =>
    simp only [Except.ok.injEq, exists_eq_left']
    cases tokenFault? host.settings request with
    | some fault => simp only [reduceCtorEq, false_and]
    | none =>
      cases endpoint.call request body with
      | error complaints => simp only [reduceCtorEq, and_false]
      | ok found => simp only [Except.ok.injEq, true_and]

/-- Whoever does not get through is told so. -/
theorem Host.isSuccess_of_pass {refusal : Response}
    (h : host.pass endpoint request = .error refusal) : refusal.isSuccess = false := by
  rw [Host.pass] at h
  split at h
  · next fault _ =>
    cases h
    cases fault <;> rfl
  · split at h
    · next fault _ =>
      cases h
      cases fault <;> rfl
    · split at h
      · cases h
        rfl
      · cases h

/-! ## Calls -/

/-- Whether a request only asks from elsewhere what would be allowed. -/
def asksBeforehand (request : Request) : Bool :=
  (request.header? "origin").isSome && (requestedMethod? request).isSome

/-- The call that a host carries out for a request, if the request gets that far. -/
def Host.call? (host : Host) (request : Request) : Option Call :=
  if asksBeforehand request then none
  else
    match Destination.of request.method request.path with
    | .route (.endpoint endpoint) => (host.pass endpoint request).toOption
    | .route .health | .otherMethod _ | .otherPath _ | .nowhere => none

/-- The traffic after the call that a host carries out for a request. -/
def Host.trafficAfter (host : Host) (request : Request) (traffic : Traffic) : Traffic :=
  match host.call? request with
  | some call => (call.performOver host.client traffic).2
  | none => traffic

/-! ### What a host does about a request -/

section

variable {moment : Moment} {state state' : State}

theorem endpointResponse_of_error {refusal : Response}
    (h : host.pass endpoint request = .error refusal) (state : State) :
    (host.endpointResponse endpoint request state).1.value = .ok refusal ∧
      (host.endpointResponse endpoint request state).2.traffic = state.traffic := by
  rw [← value_passGates state.warning] at h
  rw [Host.endpointResponse]
  generalize (host.passGates endpoint request state.warning).value = passed at h
  obtain ⟨call?, warning⟩ := passed
  cases h
  exact ⟨rfl, rfl⟩

theorem endpointResponse_of_ok {call : Call}
    (h : host.pass endpoint request = .ok call) (state : State) :
    (host.endpointResponse endpoint request state).1.value =
        answerResponse (call.performOver host.client state.traffic).1.value ∧
      (host.endpointResponse endpoint request state).2.traffic =
        (call.performOver host.client state.traffic).2 := by
  rw [← value_passGates state.warning] at h
  rw [Host.endpointResponse]
  generalize (host.passGates endpoint request state.warning).value = passed at h
  obtain ⟨call?, warning⟩ := passed
  cases h
  exact ⟨rfl, rfl⟩

/-- The headers that a response gets by where its request comes from. -/
def originHeaders (origins : List String) (request : Request) : List (String × String) :=
  match request.header? "origin" with
  | none => []
  | some origin => crossOriginHeaders origins origin request

/-- A question beforehand is answered at once, in every state alike. -/
theorem respond_of_asksBeforehand (host : Host) (h : asksBeforehand request = true) :
    ∃ response, ∀ moment state, (host.respond moment request state).1.value =
        host.finish request response ∧
      (host.respond moment request state).2 = state := by
  rw [asksBeforehand, Bool.and_eq_true, Option.isSome_iff_exists, Option.isSome_iff_exists] at h
  obtain ⟨⟨origin, horigin⟩, method, hmethod⟩ := h
  refine ⟨preflight host.settings.origins origin method, fun moment state => ?_⟩
  simp only [Host.respond, Host.originResponse, horigin, hmethod, Except.bind, and_self]

/-- Any other request is responded to as if it came from here, and the response gets its headers. -/
theorem respond_of_not_asksBeforehand (host : Host) (h : asksBeforehand request = false)
    (moment : Moment) (state : State) :
    (host.respond moment request state).1.value =
        (host.ownResponse moment request state).1.value.bind (fun response =>
          host.finish request
            (response.withHeaders (originHeaders host.settings.origins request))) ∧
      (host.respond moment request state).2 = (host.ownResponse moment request state).2 := by
  rw [asksBeforehand] at h
  cases horigin : request.header? "origin" with
  | none =>
    simp only [Host.respond, Host.originResponse, originHeaders, horigin, Response.withHeaders,
      List.append_nil, and_true]
  | some origin =>
    cases hmethod : requestedMethod? request with
    | some method =>
      rw [horigin, hmethod] at h
      cases h
    | none =>
      simp only [Host.respond, Host.originResponse, originHeaders, horigin, hmethod, and_true,
        Answered.map]
      cases (host.ownResponse moment request state).1.value <;> rfl

/-- Two ends of a request that show no difference: the log and the warning are not seen. -/
def Alike {α : Type} (first second : Answered α × State) : Prop :=
  first.1.value = second.1.value ∧ first.2.traffic = second.2.traffic

theorem endpointResponse_alike (h : state.traffic = state'.traffic) :
    Alike (host.endpointResponse endpoint request state)
      (host.endpointResponse endpoint request state') := by
  cases hpass : host.pass endpoint request with
  | error refusal =>
    obtain ⟨hvalue, htraffic⟩ := endpointResponse_of_error hpass state
    obtain ⟨hvalue', htraffic'⟩ := endpointResponse_of_error hpass state'
    exact ⟨hvalue.trans hvalue'.symm, htraffic.trans (h.trans htraffic'.symm)⟩
  | ok call =>
    obtain ⟨hvalue, htraffic⟩ := endpointResponse_of_ok hpass state
    obtain ⟨hvalue', htraffic'⟩ := endpointResponse_of_ok hpass state'
    rw [h] at hvalue htraffic
    exact ⟨hvalue.trans hvalue'.symm, htraffic.trans htraffic'.symm⟩

theorem ownResponse_alike (h : state.traffic = state'.traffic) :
    Alike (host.ownResponse moment request state) (host.ownResponse moment request state') := by
  unfold Host.ownResponse
  split
  · exact ⟨rfl, h⟩
  · exact endpointResponse_alike h
  · exact ⟨rfl, h⟩
  · exact ⟨rfl, h⟩
  · exact ⟨rfl, h⟩

/-- **What a host does depends on nothing before but the traffic.** -/
theorem respond_alike (h : state.traffic = state'.traffic) :
    Alike (host.respond moment request state) (host.respond moment request state') := by
  cases hasks : asksBeforehand request with
  | true =>
    obtain ⟨response, hresponse⟩ := respond_of_asksBeforehand host hasks
    obtain ⟨hvalue, hstate⟩ := hresponse moment state
    obtain ⟨hvalue', hstate'⟩ := hresponse moment state'
    exact ⟨hvalue.trans hvalue'.symm, by rw [hstate, hstate', h]⟩
  | false =>
    obtain ⟨hvalue, hstate⟩ := respond_of_not_asksBeforehand host hasks moment state
    obtain ⟨hvalue', hstate'⟩ := respond_of_not_asksBeforehand host hasks moment state'
    have hown : Alike (host.ownResponse moment request state)
        (host.ownResponse moment request state') := ownResponse_alike h
    exact ⟨by rw [hvalue, hvalue', hown.1], by rw [hstate, hstate', hown.2]⟩

/-- **A host touches the network for the call that it carries out, and for nothing else.** -/
theorem traffic_respond (host : Host) (request : Request) (moment : Moment) (state : State) :
    (host.respond moment request state).2.traffic = host.trafficAfter request state.traffic := by
  rw [Host.trafficAfter, Host.call?]
  cases hasks : asksBeforehand request with
  | true =>
    obtain ⟨response, hresponse⟩ := respond_of_asksBeforehand host hasks
    rw [(hresponse moment state).2]
    rfl
  | false =>
    rw [(respond_of_not_asksBeforehand host hasks moment state).2, Host.ownResponse]
    rw [if_neg Bool.false_ne_true]
    cases Destination.of request.method request.path with
    | otherMethod _ | otherPath _ | nowhere => rfl
    | route found =>
      cases found with
      | health => rfl
      | endpoint endpoint =>
        dsimp only
        cases hpass : host.pass endpoint request with
        | error refusal => exact (endpointResponse_of_error hpass state).2
        | ok call => exact (endpointResponse_of_ok hpass state).2

end

/-! ## Requests one after another -/

/-- What comes of requests one after another, and the state after them. -/
def Host.respondAll (host : Host) :
    List (Moment × Request) → State → List (Except Problem Response) × State
  | [], state => ([], state)
  | (moment, request) :: rest, state =>
    let (answered, state) := host.respond moment request state
    let (later, state) := host.respondAll rest state
    (answered.value :: later, state)

/-- States with the same traffic see the same responses. -/
theorem respondAll_alike (host : Host) {state state' : State} (h : state.traffic = state'.traffic)
    (requests : List (Moment × Request)) :
    (host.respondAll requests state).1 = (host.respondAll requests state').1 ∧
      (host.respondAll requests state).2.traffic = (host.respondAll requests state').2.traffic := by
  induction requests generalizing state state' with
  | nil => exact ⟨rfl, h⟩
  | cons first rest ih =>
    obtain ⟨moment, request⟩ := first
    have hfirst : Alike (host.respond moment request state) (host.respond moment request state') :=
      respond_alike h
    obtain ⟨hvalue, htraffic⟩ := hfirst
    obtain ⟨hlater, hafter⟩ := ih htraffic
    simp only [Host.respondAll, hvalue, hlater, hafter, and_self]

/-! ## Refusals -/

/-- A request is refused: what comes of it is no success, and it is told so unless the version of
the service fits into no header. -/
structure Host.Refuses (host : Host) (outcome : Except Problem Response) : Prop where
  unsuccessful : ∀ response, outcome = .ok response → response.isSuccess = false
  told : Repertoire.latin1.covers host.settings.version = true → ∃ response, outcome = .ok response

/-- The finishing touches leave a refusal one. -/
theorem refuses_finish {response : Response} (h : response.isSuccess = false) :
    host.Refuses (host.finish request response) := by
  unfold Host.finish
  dsimp only
  cases hversion : Repertoire.latin1.covers host.settings.version with
  | false =>
    refine ⟨nofun, fun hcovers => ?_⟩
    rw [hversion] at hcovers
    cases hcovers
  | true =>
    refine ⟨fun finished hfinished => ?_, fun _ => ⟨_, rfl⟩⟩
    cases hfinished
    split <;> exact h

/-- A request that leads somewhere has the method of where it leads. -/
theorem method_of_route {method path : String} {found : Route}
    (h : Destination.of method path = .route found) : found.method = method := by
  rw [Destination.of] at h
  split at h
  · split at h
    · next hmethod =>
      cases h
      exact eq_of_beq hmethod
    · cases h
  · split at h <;> cases h

/-- No endpoint takes the method that questions beforehand have. -/
theorem asksBeforehand_of_route
    (h : Destination.of request.method request.path = .route (.endpoint endpoint)) :
    asksBeforehand request = false := by
  have hmethod := method_of_route h
  have hother : requestedMethod? request = none := by
    rw [requestedMethod?, ← hmethod]
    cases endpoint <;> rfl
  rw [asksBeforehand, hother, Option.isSome_none, Bool.and_false]

/-- **A call is carried out for exactly those requests that lead to an endpoint and get through its
gates.** -/
theorem call?_eq_some_iff {call : Call} :
    host.call? request = some call ↔
      ∃ endpoint, Destination.of request.method request.path = .route (.endpoint endpoint) ∧
        host.pass endpoint request = .ok call := by
  rw [Host.call?]
  constructor
  · intro h
    split at h
    · cases h
    · split at h
      · next endpoint hroute =>
        refine ⟨endpoint, hroute, ?_⟩
        cases hpass : host.pass endpoint request with
        | error refusal =>
          rw [hpass] at h
          cases h
        | ok found =>
          rw [hpass] at h
          cases h
          rfl
      · cases h
      · cases h
      · cases h
      · cases h
  · rintro ⟨endpoint, hroute, hpass⟩
    rw [asksBeforehand_of_route hroute, if_neg Bool.false_ne_true, hroute]
    dsimp only
    rw [hpass]
    rfl

/-- A request without the valid token is refused in every state alike, and no call is carried out
for it. -/
theorem respond_without_token
    (hroute : Destination.of request.method request.path = .route (.endpoint endpoint))
    (htoken : ¬request.Carries host.settings.token) :
    host.call? request = none ∧
      ∃ outcome, host.Refuses outcome ∧ ∀ moment state,
        (host.respond moment request state).1.value = outcome := by
  have hrefused : ∃ refusal, host.pass endpoint request = .error refusal := by
    cases hpass : host.pass endpoint request with
    | error refusal => exact ⟨refusal, rfl⟩
    | ok call =>
      obtain ⟨-, -, hcarries, -⟩ := Host.pass_eq_ok_iff.mp hpass
      exact absurd hcarries htoken
  obtain ⟨refusal, hpass⟩ := hrefused
  have hasks := asksBeforehand_of_route hroute
  have hunsuccessful := Host.isSuccess_of_pass hpass
  refine ⟨?_, host.finish request (refusal.withHeaders
    (originHeaders host.settings.origins request)), refuses_finish hunsuccessful,
    fun moment state => ?_⟩
  · refine Option.eq_none_iff_forall_ne_some.mpr fun call hcall => ?_
    obtain ⟨other, hother, hok⟩ := call?_eq_some_iff.mp hcall
    cases hroute.symm.trans hother
    cases hpass.symm.trans hok
  · rw [(respond_of_not_asksBeforehand host hasks moment state).1, Host.ownResponse, hroute]
    dsimp only
    rw [(endpointResponse_of_error hpass state).1]
    rfl

theorem respondAll_append (earlier later : List (Moment × Request)) (start : State) :
    host.respondAll (earlier ++ later) start =
      ((host.respondAll earlier start).1 ++
          (host.respondAll later (host.respondAll earlier start).2).1,
        (host.respondAll later (host.respondAll earlier start).2).2) := by
  induction earlier generalizing start with
  | nil => rfl
  | cons first rest ih =>
    obtain ⟨moment, request⟩ := first
    simp only [List.cons_append, Host.respondAll, ih]

/-- **Without the valid token no request gets anywhere.** Whether a request gets past the gate for
its token is a matter of the token it carries, whatever was said before. A request to an endpoint
that carries another one, or none, is refused: no call is carried out for it, what it is told is the
same after any requests, and those before it and after it fare as if it had never been made. -/
theorem refused_without_token (host : Host) :
    (∀ request warning, (authenticate host.settings request warning).value.1 = .ok () ↔
      request.Carries host.settings.token) ∧
    ∀ (endpoint : Endpoint) (request : Request),
      Destination.of request.method request.path = .route (.endpoint endpoint) →
      ¬request.Carries host.settings.token →
      host.call? request = none ∧
      ∃ outcome, host.Refuses outcome ∧
        ∀ (earlier later : List (Moment × Request)) (moment : Moment) (start : State),
          (host.respondAll (earlier ++ (moment, request) :: later) start).1 =
            (host.respondAll earlier start).1 ++
              outcome :: (host.respondAll later (host.respondAll earlier start).2).1 ∧
          (host.respondAll (earlier ++ (moment, request) :: later) start).2.traffic =
            (host.respondAll (earlier ++ later) start).2.traffic := by
  refine ⟨fun request warning => ?_, fun endpoint request hroute htoken => ?_⟩
  · rw [value_authenticate, ← tokenFault?_eq_none_iff]
    cases tokenFault? host.settings request with
    | none => exact ⟨fun _ => rfl, fun _ => rfl⟩
    | some fault => exact ⟨nofun, nofun⟩
  · obtain ⟨hcall, outcome, hrefuses, hvalue⟩ := respond_without_token hroute htoken
    refine ⟨hcall, outcome, hrefuses, fun earlier later moment start => ?_⟩
    have htraffic := traffic_respond host request moment (host.respondAll earlier start).2
    rw [Host.trafficAfter, hcall] at htraffic
    obtain ⟨hlater, hafter⟩ := respondAll_alike host htraffic later
    simp only [respondAll_append, Host.respondAll, hvalue, hlater, hafter, and_self]

/-- A request for data with nearly the token for development. -/
def intruder : Request where
  method := "POST"
  path := "/api/query/execute"
  headers := [("Authorization", "Bearer Devtoken")]

theorem refused_without_token_intruder :
    let host : Host := ⟨{}, {}⟩
    Destination.of intruder.method intruder.path = .route (.endpoint .execute) ∧
      ¬intruder.Carries host.settings.token ∧ host.call? intruder = none ∧
      ∃ outcome, host.Refuses outcome ∧
        ∀ (earlier : List (Moment × Request)) (moment : Moment) (start : State),
          (host.respondAll (earlier ++ [(moment, intruder)]) start).1 =
            (host.respondAll earlier start).1 ++ [outcome] ∧
          (host.respondAll (earlier ++ [(moment, intruder)]) start).2.traffic =
            (host.respondAll earlier start).2.traffic := by
  have htoken : ¬intruder.Carries developmentToken := by decide +kernel
  obtain ⟨hcall, outcome, hrefuses, hruns⟩ :=
    (refused_without_token ⟨{}, {}⟩).2 .execute intruder rfl htoken
  refine ⟨rfl, htoken, hcall, outcome, hrefuses, fun earlier moment start => ?_⟩
  obtain ⟨hvalues, htraffic⟩ := hruns earlier [] moment start
  rw [List.append_nil] at htraffic
  exact ⟨hvalues, htraffic⟩

end ODataExplorer.Server
