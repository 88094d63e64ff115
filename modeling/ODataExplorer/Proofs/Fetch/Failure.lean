import ODataExplorer.Proofs.Fetch.Served

/-!
Which fetches fail with a category.

Callers tell failures by their category, and a few failures have none. Those come from a name that
no header can hold, from an answer to a relative URL, from redirects that go astray, from a declared
length of digits that are no number, from content types that cannot be read, and from character sets
that may refuse to make text. An exchange without any of these is orderly. The fetch of a document in
it succeeds or fails with a category (`category?_of_fetchMetadata`), and so does the fetch of data
for which there is room (`category?_of_fetchData`).
-/

namespace ODataExplorer.Fetch

open Text

/-- A response whose body can be read, as far as its headers decide: the declared length is a number
if it is made of digits, and the content type can be read and names no character set that may refuse
to make text. -/
structure Response.IsReadable (response : Response) : Prop where
  length : ¬Number.IsFalseNumeral ((response.header? "content-length").getD "")
  charset : ∃ charset name, response.charset = .ok (charset, name) ∧ charset.makesText = true

/-- An exchange of a client with those who reply in which nothing happens that is of no category. -/
structure IsOrderly (client : Client) (url : String) (replies : List Reply) : Prop where
  agent : Repertoire.ascii.covers client.userAgent = true
  /-- Nobody answers a relative URL. -/
  absolute : ∀ address, readAddress url = .ok address → address.isAbsolute = false →
    ∀ response, ¬IsReached replies response
  redirects : ∀ address, readAddress url = .ok address → RedirectsFamiliarly address replies
  /-- What is read can be. -/
  readable : ∀ response, IsReached replies response → response.location? = none →
    response.isError = false → response.IsReadable

variable {client : Client} {url accept : String} {replies : List Reply} {failure : Failure}

/-! ## Arriving -/

/-- A request to a relative address that nobody answers fails as the transport does. -/
theorem arrives_follow_relative (text : String) (redirects : Nat)
    (h : ∀ response, ¬IsReached replies response) :
    Arrives replies (follow (.relative text) redirects replies).1 := by
  unfold follow
  rcases replies with - | ⟨response | ⟨fault, reason⟩, rest⟩
  · exact .failure ..
  · exact absurd (.first response rest) (h response)
  · exact .failure ..

theorem IsOrderly.arrives (h : IsOrderly client url replies) {address : Address}
    (hread : readAddress url = .ok address) (redirects : Nat) :
    Arrives replies (follow address.target redirects replies).1 := by
  rw [Address.target]
  split
  · exact arrives_follow redirects (h.redirects address hread)
  · next hrelative =>
    exact arrives_follow_relative _ _ (h.absolute address hread (Bool.eq_false_iff.mpr hrelative))

/-! ## Reading -/

/-- A readable response is too large, is not coded as it should be, or has a text. -/
theorem category?_of_readText {response : Response} (h : response.IsReadable)
    (hfailure : (readText client url response).1 = .error failure) : failure.category?.isSome := by
  rw [readText, declaresTooMuch_eq h.length] at hfailure
  generalize decide (response.DeclaresAbove client.maxResponseBytes) = much at hfailure
  cases much with
  | true =>
    cases hfailure
    rfl
  | false =>
    dsimp only at hfailure
    split at hfailure
    · cases hfailure
      rfl
    · cases hfailure
      rfl
    · next bytes _ _ =>
      obtain ⟨charset, name, hname, hmakes⟩ := h.charset
      obtain ⟨text, htext⟩ := Charset.decode_of_makesText hmakes bytes
      rw [Response.textOf, hname] at hfailure
      dsimp only at hfailure
      rw [htext] at hfailure
      cases hfailure

/-! ## Fetching -/

theorem category?_transportFailure (client : Client) (url : String) (fault : TransportFault)
    (reason : String) : (transportFailure client url fault reason).1.category?.isSome := by
  cases fault <;> rfl

/-- A text fetched in an orderly exchange is there, or is missing for a reason of a category. -/
theorem category?_of_fetchText (h : IsOrderly client url replies)
    (hfailure : (fetchText client url accept replies).result = .error failure) :
    failure.category?.isSome := by
  rw [fetchText] at hfailure
  split at hfailure
  · cases hfailure
    rfl
  · next address hread =>
    have harrives := h.arrives hread maxRedirects
    rw [h.agent, Bool.not_true, if_neg Bool.false_ne_true] at hfailure
    generalize follow address.target maxRedirects replies = followed at harrives hfailure
    obtain ⟨arrival, pieces, rest⟩ := followed
    cases harrives with
    | failure fault reason =>
      cases hfailure
      exact category?_transportFailure client url fault reason
    | response hreached hlast =>
      dsimp only at hfailure
      split at hfailure
      · cases hfailure
        rfl
      · next hstatus =>
        have hreadable := h.readable _ hreached hlast (Bool.eq_false_iff.mpr hstatus)
        exact category?_of_readText hreadable hfailure

/-- **A document fetched in an orderly exchange is there, or is missing for a reason of a
category.** -/
theorem category?_of_fetchMetadata (h : IsOrderly client url replies)
    (hfailure : (fetchMetadata client url replies).result = .error failure) :
    failure.category?.isSome := by
  rw [fetchMetadata] at hfailure
  split at hfailure
  · exact category?_of_fetchText h hfailure
  · split at hfailure
    · cases hfailure
      rfl
    · next hfetched _ _ _ =>
      rw [hfetched] at hfailure
      cases hfailure

/-- **So is the data of a query,** unless there is no room for what is nested in it. -/
theorem category?_of_fetchData (h : IsOrderly client url replies)
    (hroom : ∀ text, (fetchText client url "application/json" replies).result = .ok text →
      Json.overflow? client.room text = none)
    (hfailure : (fetchData client url replies).result = .error failure) :
    failure.category?.isSome := by
  cases hfetched : (fetchText client url "application/json" replies).result with
  | error reason =>
    rw [fetchData, hfetched] at hfailure
    cases hfailure
    exact category?_of_fetchText h hfetched
  | ok text =>
    rw [result_fetchData hfetched, Client.decode, hroom text hfetched] at hfailure
    dsimp only at hfailure
    cases hdecoded : Payload.decode (some text) .json with
    | error reason =>
      rw [hdecoded] at hfailure
      cases hfailure
      rfl
    | ok decoded =>
      rw [hdecoded] at hfailure
      cases hfailure

end ODataExplorer.Fetch
