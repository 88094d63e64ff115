import ODataExplorer.Fetch.Client

/-!
Where redirects end.

A redirect goes astray in two ways: from an address whose scheme has no relative addresses, and by a
host that looks like a domain name in ASCII and is none. Among addresses with neither fault, which
are the familiar ones, a redirect leads to another familiar address or has a location that is no URL
(`leads_redirect`). So whoever is sent from one to the next arrives at one of the responses, or
fails as the transport does (`arrives_follow`).
-/

namespace ODataExplorer.Fetch

open Text

namespace Address

/-- An address that redirects do not go astray from or at. -/
structure IsFamiliar (address : Address) : Prop where
  scheme : address.scheme ≠ [] →
    relativeSchemes.contains (String.ofList address.scheme) = true
  domain : readDomain address = .ok ()

end Address

variable {source target address : Address} {location : String}

/-! ## One redirect -/

/-- Only the host of an address decides on its domain name. -/
theorem readDomain_congr (h : source.host = target.host) :
    readDomain source = readDomain target := by
  rw [readDomain, readDomain, Address.sentHost, Address.sentHost, h]

/-- An address with a fragment that is handed on keeps its scheme and its host. -/
theorem inheritFragment_cases (source target : Address) :
    (∃ fault, source.inheritFragment target = .error (.address fault)) ∨
      ∃ next, source.inheritFragment target = .ok next ∧ next.scheme = target.scheme ∧
        next.host = target.host := by
  rw [Address.inheritFragment]
  split
  · exact .inr ⟨target, rfl, rfl, rfl⟩
  · split
    · exact .inl ⟨_, rfl⟩
    · exact .inr ⟨_, rfl, rfl, rfl⟩

/-- A location with a scheme keeps it, and has its own host or that of the address that was
asked. -/
theorem withHostOf_cases (hsource : readDomain source = .ok ())
    (htarget : readDomain target = .ok ()) :
    (∃ fault, source.withHostOf target = .error (.address fault)) ∨
      ∃ next, source.withHostOf target = .ok next ∧ next.scheme = target.scheme ∧
        readDomain next = .ok () := by
  rw [Address.withHostOf]
  split
  · refine .inr ⟨target, ?_, rfl, htarget⟩
    rw [htarget]
    rfl
  · rw [hsource]
    simp only [bind, Except.bind]
    split
    · exact .inr ⟨_, rfl, rfl, .trans (readDomain_congr (by rfl)) hsource⟩
    · exact .inl ⟨_, rfl⟩

/-- A location without a scheme gets that of the address that was asked, and has its own host or
that of the address. -/
theorem resolveFrom_cases (hsource : readDomain source = .ok ())
    (htarget : readDomain target = .ok ()) :
    (source.resolveFrom target).scheme = source.scheme ∧
      readDomain (source.resolveFrom target) = .ok () := by
  by_cases hbare : target.sentAuthority.isEmpty = true
  · rw [Address.resolveFrom, if_pos hbare]
    exact ⟨rfl, .trans (readDomain_congr (by rfl)) hsource⟩
  · rw [Address.resolveFrom, if_neg hbare]
    exact ⟨rfl, .trans (readDomain_congr (by rfl)) htarget⟩

/-- What a redirect comes to that does not go astray: another address, or none because the location
makes no URL. -/
inductive Leads : Except RedirectFault Target → Prop
  | onward {next : Address} (hscheme : next.scheme ≠ []) (hfamiliar : next.IsFamiliar) :
    Leads (.ok (.absolute next))
  | noLocation (fault : AddressFault) : Leads (.error (.location fault))
  | noAddress (fault : AddressFault) : Leads (.error (.address fault))

/-- **A redirect between familiar addresses does not go astray.** -/
theorem leads_redirect (hscheme : source.scheme ≠ []) (hsource : source.IsFamiliar)
    (hlocation : ∀ target, readAddress location = .ok target → target.IsFamiliar) :
    Leads (source.redirect location) := by
  rw [Address.redirect]
  split
  · exact .noLocation _
  · next target hread =>
    have htarget := hlocation target hread
    split
    · next hown =>
      have hown : target.scheme ≠ [] := by simpa using hown
      obtain ⟨fault, hhost⟩ | ⟨next, hhost, hnext, hdomain⟩ :=
        withHostOf_cases hsource.domain htarget.domain
      · rw [hhost]
        exact .noAddress fault
      · rw [hhost]
        simp only [bind, Except.bind]
        obtain ⟨fault, hfragment⟩ | ⟨last, hfragment, hlast, hlasthost⟩ :=
          inheritFragment_cases source next
        · rw [hfragment]
          exact .noAddress fault
        · rw [hfragment, hsource.domain]
          have hkept : last.scheme = target.scheme := hlast.trans hnext
          refine .onward (hkept ▸ hown) ⟨fun _ => ?_, (readDomain_congr hlasthost).trans hdomain⟩
          rw [hkept]
          exact htarget.scheme hown
    · split
      · rw [hsource.domain]
        exact .onward hscheme hsource
      · rw [if_pos (hsource.scheme hscheme)]
        obtain ⟨hresolved, hdomain⟩ := resolveFrom_cases hsource.domain htarget.domain
        obtain ⟨fault, hfragment⟩ | ⟨last, hfragment, hlast, hlasthost⟩ :=
          inheritFragment_cases source (source.resolveFrom target)
        · rw [hfragment]
          exact .noAddress fault
        · have hkept : last.scheme = source.scheme := hlast.trans hresolved
          have hlastdomain : readDomain last = .ok () := (readDomain_congr hlasthost).trans hdomain
          rw [hfragment]
          simp only [bind, Except.bind, hlastdomain, hsource.domain]
          refine .onward (hkept ▸ hscheme) ⟨fun _ => ?_, hlastdomain⟩
          rw [hkept]
          exact hsource.scheme hscheme

/-! ## Many redirects -/

/-- A response that sends nobody elsewhere is where a request to an absolute address ends. -/
theorem follow_of_location?_eq_none {response : Response} {rest : List Reply} (redirects : Nat)
    (hwhole : response.wholeFault? = none) (hlast : response.location? = none) :
    follow (.absolute address) redirects (.response response :: rest) =
      (.response response, [], rest) := by
  unfold follow
  simp only [nextReply, hwhole, hlast]

/-- What one reply makes of a request to an absolute address. -/
inductive FollowStep (address : Address) : Nat → List Reply → Arrival → Prop
  | failure (redirects : Nat) (replies : List Reply) (fault : TransportFault) (reason : String) :
    FollowStep address redirects replies (.failure fault reason)
  | last (redirects : Nat) {response : Response} (rest : List Reply)
    (hlast : response.location? = none) :
    FollowStep address redirects (.response response :: rest) (.response response)
  | stuck (redirects : Nat) {response : Response} (rest : List Reply) {location : String}
    {fault : RedirectFault} (hlocation : response.location? = some location)
    (hredirect : address.redirect location = .error fault) :
    FollowStep address redirects (.response response :: rest) fault.arrival
  | onward (redirects : Nat) {response : Response} (rest : List Reply) {location : String}
    {next : Target} (hlocation : response.location? = some location)
    (hredirect : address.redirect location = .ok next) :
    FollowStep address (redirects + 1) (.response response :: rest) (follow next redirects rest).1

/-- A request to an absolute address takes one such step, and goes on from there. -/
theorem followStep_follow (address : Address) (redirects : Nat) (replies : List Reply) :
    FollowStep address redirects replies (follow (.absolute address) redirects replies).1 := by
  unfold follow
  rcases replies with - | ⟨response | ⟨fault, reason⟩, rest⟩
  · exact .failure redirects [] _ _
  · simp only [nextReply]
    cases response.wholeFault? with
    | some fault => exact .failure redirects _ _ _
    | none =>
      cases hlocation : response.location? with
      | none => exact .last redirects rest hlocation
      | some location =>
        dsimp only
        cases hredirect : address.redirect location with
        | error fault => exact .stuck redirects rest hlocation hredirect
        | ok next =>
          cases response.content.fault? with
          | some fault => exact .failure redirects _ _ _
          | none =>
            cases redirects with
            | zero => exact .failure 0 _ _ _
            | succ redirects => exact .onward redirects rest hlocation hredirect
  · exact .failure redirects _ _ _

/-- The responses that a request gets to see, one after the other: the first, and after one that
sends it elsewhere the next. -/
inductive IsReached : List Reply → Response → Prop
  | first (response : Response) (rest : List Reply) :
    IsReached (.response response :: rest) response
  | later {response next : Response} {rest : List Reply} {location : String}
    (hlocation : response.location? = some location) (hnext : IsReached rest next) :
    IsReached (.response response :: rest) next

/-- Where a request arrives that does not go astray: at a response that leads nowhere else, or
nowhere because the transport failed. -/
inductive Arrives (replies : List Reply) : Arrival → Prop
  | response {response : Response} (hreached : IsReached replies response)
    (hlast : response.location? = none) : Arrives replies (.response response)
  | failure (fault : TransportFault) (reason : String) : Arrives replies (.failure fault reason)

theorem Arrives.later {response : Response} {rest : List Reply} {arrival : Arrival}
    (h : Arrives rest arrival) (hlocation : response.location? = some location) :
    Arrives (.response response :: rest) arrival := by
  cases h with
  | response hreached hlast => exact .response (.later hlocation hreached) hlast
  | failure fault reason => exact .failure fault reason

/-- A request that is sent elsewhere is sent from a familiar address, and to one if the location is
an address at all. -/
structure RedirectsFamiliarly (address : Address) (replies : List Reply) : Prop where
  source : ∀ response, IsReached replies response → ∀ location,
    response.location? = some location → address.scheme ≠ [] ∧ address.IsFamiliar
  target : ∀ response, IsReached replies response → ∀ location,
    response.location? = some location → ∀ target, readAddress location = .ok target →
    target.IsFamiliar

/-- The redirect of the first response does not go astray. -/
theorem RedirectsFamiliarly.leads {response : Response} {rest : List Reply}
    (h : RedirectsFamiliarly address (.response response :: rest))
    (hlocation : response.location? = some location) : Leads (address.redirect location) := by
  have hfirst : IsReached (.response response :: rest) response := .first response rest
  obtain ⟨hscheme, haddress⟩ := h.source response hfirst location hlocation
  exact leads_redirect hscheme haddress (h.target response hfirst location hlocation)

/-- The redirects after a familiar one are familiar. -/
theorem RedirectsFamiliarly.later {response : Response} {rest : List Reply} {next : Address}
    (h : RedirectsFamiliarly address (.response response :: rest))
    (hlocation : response.location? = some location) (hscheme : next.scheme ≠ [])
    (hnext : next.IsFamiliar) : RedirectsFamiliarly next rest where
  source _ _ _ _ := ⟨hscheme, hnext⟩
  target response hreached := h.target response (.later hlocation hreached)

/-- **Redirects between familiar addresses arrive.** -/
theorem arrives_follow {replies : List Reply} (redirects : Nat)
    (h : RedirectsFamiliarly address replies) :
    Arrives replies (follow (.absolute address) redirects replies).1 := by
  induction replies generalizing address redirects with
  | nil =>
    have hstep := followStep_follow address redirects []
    generalize (follow (.absolute address) redirects []).1 = arrival at hstep ⊢
    cases hstep with
    | failure => exact .failure ..
  | cons reply rest ih =>
    have hstep := followStep_follow address redirects (reply :: rest)
    generalize (follow (.absolute address) redirects (reply :: rest)).1 = arrival at hstep ⊢
    cases hstep with
    | failure => exact .failure ..
    | last _ _ hlast => exact .response (.first _ _) hlast
    | stuck _ _ hlocation hredirect =>
      have hleads := h.leads hlocation
      rw [hredirect] at hleads
      cases hleads with
      | noLocation fault => exact .failure ..
      | noAddress fault => exact .failure ..
    | onward redirects _ hlocation hredirect =>
      have hleads := h.leads hlocation
      rw [hredirect] at hleads
      cases hleads with
      | onward hnext hfamiliar =>
        exact (ih redirects (h.later hlocation hnext hfamiliar)).later hlocation

end ODataExplorer.Fetch
