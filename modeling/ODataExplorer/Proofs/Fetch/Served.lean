import ODataExplorer.Proofs.Charset.Refusal
import ODataExplorer.Proofs.Csdl.Detection
import ODataExplorer.Proofs.Fetch.Limit
import ODataExplorer.Proofs.Fetch.Redirect

/-!
Fetching a text that is served.

A service serves a text when it answers with the text in UTF-8, in any pieces and under any codings
that are undone, within the limit of the client. Reading within the limit gives all the bytes
(`Response.Carries.fst_readLimited`), so the fetch gives that text (`fetchText_of_serves`).
-/

namespace ODataExplorer.Fetch

open Text

/-! ## A text that is served -/

/-- A response carries a text: in UTF-8 once its codings are undone, as its content type says if it
says anything, and within a limit that its declared length respects. -/
structure Response.Carries (limit : Int) (text : String) (response : Response) : Prop where
  charset : ∃ name, response.charset = .ok (.utf8, name)
  content : ∃ parts, response.content = plainPieces parts ∧
    parts.flatten = Utf8.encode text.toList
  declared : isDigitText ((response.header? "content-length").getD "") = true →
    Number.IsNumeral ((response.header? "content-length").getD "") ∧
      (Number.numeralValue ((response.header? "content-length").getD "") : Int) ≤ limit
  short : ((Utf8.encode text.toList).length : Int) ≤ limit

/-- A client that can ask for a URL gets a response that carries a text, first of all. -/
structure Serves (client : Client) (url text : String) (replies : List Reply) : Prop where
  agent : Repertoire.ascii.covers client.userAgent = true
  address : ∃ address, readAddress url = .ok address ∧ address.isAbsolute = true
  response : ∃ response rest, replies = .response response :: rest ∧ response.status = 200 ∧
    response.Carries client.maxResponseBytes text

variable {client : Client} {url text accept : String} {replies : List Reply} {response : Response}

/-- The bytes of the text are read within the limit. -/
theorem Response.Carries.fst_readLimited (h : response.Carries client.maxResponseBytes text) :
    (readLimited client url response).1 = .ok (Utf8.encode text.toList) := by
  obtain ⟨parts, hcontent, hbytes⟩ := h.content
  have hshort := h.short
  have hlimit : 0 ≤ client.maxResponseBytes := Int.le_trans (Int.natCast_nonneg _) hshort
  have hdeclared : ¬Number.IsFalseNumeral response.declaredLength := fun hfalse =>
    hfalse.2 (h.declared hfalse.1).1
  rw [Fetch.fst_readLimited hdeclared hlimit hcontent, hbytes, if_neg]
  rintro (habove | hmore)
  · exact Int.not_lt.mpr (h.declared habove.1).2 habove.2
  · exact Int.not_lt.mpr hshort hmore

/-- Reading a response that carries a text gives the text. -/
theorem readText_of_carries (h : response.Carries client.maxResponseBytes text) :
    (readText client url response).1 = .ok text := by
  have hread : (readText client url response).1 = response.textOf (Utf8.encode text.toList) := by
    rw [readText_eq, h.fst_readLimited]
    rfl
  obtain ⟨name, hname⟩ := h.charset
  rw [hread, Response.textOf, hname]
  dsimp only
  rw [Charset.decode_utf8_encode]

theorem fault?_plainPieces (parts : List (List UInt8)) : (plainPieces parts).fault? = none := by
  rw [Pieces.fault?, plainPieces, List.findSome?_eq_none_iff]
  intro part hpart
  obtain ⟨bytes, -, rfl⟩ := List.mem_map.mp hpart
  rfl

/-- A response that carries a text makes sense as it arrives. -/
theorem Response.Carries.wholeFault? {limit : Int} (h : response.Carries limit text) :
    response.wholeFault? = none := by
  obtain ⟨parts, hcontent, -⟩ := h.content
  rw [Response.wholeFault?]
  split
  · rw [hcontent, fault?_plainPieces]
  · rfl

/-- **A text that is served is what a fetch gives.** -/
theorem fetchText_of_serves (h : Serves client url text replies) :
    (fetchText client url accept replies).result = .ok text := by
  obtain ⟨address, hread, habsolute⟩ := h.address
  obtain ⟨response, rest, rfl, hstatus, hcarries⟩ := h.response
  have hlast : response.location? = none := by
    rw [Response.location?, hstatus]
    rfl
  have hfollow : follow (.absolute address) maxRedirects (.response response :: rest) = _ :=
    follow_of_location?_eq_none maxRedirects hcarries.wholeFault? hlast
  have hfine : response.isError = false := by
    rw [Response.isError, hstatus]
    rfl
  rw [fetchText, hread]
  dsimp only
  rw [h.agent, Bool.not_true, if_neg Bool.false_ne_true, Address.target, if_pos habsolute, hfollow]
  dsimp only
  rw [hfine, if_neg Bool.false_ne_true]
  exact readText_of_carries hcarries

/-- **A text that is fetched is a document if it is recognized, and fails if it is not.** -/
theorem result_fetchMetadata
    (h : (fetchText client url "application/xml" replies).result = .ok text) :
    (fetchMetadata client url replies).result =
      if Csdl.IsRecognized text then .ok text else .error (.notMetadata url) := by
  have hdetected := Csdl.isSome_detectVersion? text
  rw [fetchMetadata, h]
  dsimp only
  cases hversion : Csdl.detectVersion? (some text) with
  | none =>
    rw [hversion] at hdetected
    rw [if_neg fun hrecognized => Bool.false_ne_true (hdetected.mpr hrecognized)]
  | some version =>
    rw [hversion] at hdetected
    rw [if_pos (hdetected.mp rfl)]

/-- **A text that is fetched as data is what the client decodes it to.** -/
theorem result_fetchData
    (h : (fetchText client url "application/json" replies).result = .ok text) :
    (fetchData client url replies).result = client.decode text := by
  rw [fetchData, h]
  dsimp only
  cases client.decode text <;> rfl

end ODataExplorer.Fetch
