import ODataExplorer.Payload.Decode
import ODataExplorer.Proofs.Json.Beginning
import ODataExplorer.Proofs.Xml.Beginning

/-!
The preferred format does not decide what a text is.

No text is both JSON and XML: past its space, the one begins with a character that opens a value and
the other with an angle bracket, which opens none (`not_json_and_xml`). So a text in one format is
decoded in that format whichever is tried first (`decode_of_readAs`), and only whether it was the
preferred one depends on the preference (`decode_agree`).
-/

namespace ODataExplorer.Payload

open Text

variable {text : String} {format : Format} {payload : Json}

/-! ## The formats exclude each other -/

/-- **No text is both JSON and XML.** -/
theorem not_json_and_xml {value : Json} {root : Xml.Element} (hjson : Json.read text = .ok value)
    (hxml : Xml.read text = .ok root) : False := by
  have hdocument : ∃ value, Json.readDocument .unbounded text.toList = .ok value := by
    rw [Json.read, Json.readWithin] at hjson
    split at hjson
    · next value hread => exact ⟨value, hread⟩
    · cases hjson
    · cases hjson
    · cases hjson
  obtain ⟨value, hdocument⟩ := hdocument
  obtain ⟨c, hfirst, hopening⟩ := Json.opens_of_readDocument hdocument
  -- both readers pass over the same space
  have hspace : Xml.skipSpace text.toList = Json.skipSpace text.toList := rfl
  obtain hhead | hhead := Xml.head?_of_read hxml (Json.head?_ne_mark hdocument)
  all_goals
    rw [hspace, hfirst] at hhead
    cases hhead
    cases hopening

theorem readAs_json : readAs .json text = .ok payload ↔ Json.read text = .ok payload := by
  rw [readAs]
  cases Json.read text with
  | ok value => exact ⟨fun h => congrArg _ (Except.ok.inj h), fun h => congrArg _ (Except.ok.inj h)⟩
  | error reason => exact ⟨nofun, nofun⟩

/-- A text in XML is handed on as it is. -/
theorem readAs_xml :
    readAs .xml text = .ok payload ↔
      (∃ root, Xml.read text = .ok root) ∧ payload = .string text := by
  rw [readAs]
  cases Xml.read text with
  | ok root =>
    constructor
    · intro h
      exact ⟨⟨root, rfl⟩, (Except.ok.inj h).symm⟩
    · rintro ⟨-, rfl⟩
      rfl
  | error fault =>
    constructor
    · exact nofun
    · rintro ⟨⟨_, h⟩, -⟩
      cases h

/-- A text in one format is not in the other. -/
theorem readAs_other (h : readAs format text = .ok payload) :
    ∃ fault, readAs format.other text = .error fault := by
  cases hother : readAs format.other text with
  | error fault => exact ⟨fault, rfl⟩
  | ok =>
    exfalso
    cases format with
    | json =>
      obtain ⟨⟨_, hxml⟩, -⟩ := readAs_xml.mp hother
      exact not_json_and_xml (readAs_json.mp h) hxml
    | xml =>
      obtain ⟨⟨_, hxml⟩, -⟩ := readAs_xml.mp h
      exact not_json_and_xml (readAs_json.mp hother) hxml

/-! ## Decoding with either preference -/

/-- What decoding a text that is not blank comes to. -/
theorem decode_of_not_blank (hblank : isBlankText text = false) (preferred : Format) :
    decode (some text) preferred =
      match readAs preferred text with
      | .ok payload => .ok ⟨preferred, payload, false⟩
      | .error _ =>
        match readAs preferred.other text with
        | .ok payload => .ok ⟨preferred.other, payload, true⟩
        | .error reason => .error ⟨preferred, reason⟩ :=
  if_neg (Bool.eq_false_iff.mp hblank)

/-- **A text in a format is decoded in that format, whichever is preferred.** -/
theorem decode_of_readAs (hblank : isBlankText text = false) (h : readAs format text = .ok payload)
    (preferred : Format) :
    decode (some text) preferred = .ok ⟨format, payload, preferred != format⟩ := by
  obtain ⟨fault, hother⟩ := readAs_other h
  rw [decode_of_not_blank hblank]
  cases format <;> cases preferred <;> simp only [Format.other] at h hother ⊢ <;> rw [h]
  · rfl
  · rw [hother]
    rfl
  · rw [hother]
    rfl
  · rfl

/-- A text in neither format is refused, whichever is preferred. -/
theorem decode_of_refused (hblank : isBlankText text = false)
    (h : ∀ format, ∃ fault, readAs format text = .error fault) (preferred : Format) :
    ∃ failure, decode (some text) preferred = .error failure := by
  obtain ⟨_, hfirst⟩ := h preferred
  obtain ⟨reason, hsecond⟩ := h preferred.other
  rw [decode_of_not_blank hblank, hfirst, hsecond]
  exact ⟨⟨preferred, reason⟩, rfl⟩

/-- Two decodings of one text agree: both refuse it, or both give the same payload in the same
format, and in exactly one of them that format is a fallback. -/
inductive Agree : Except Undecodable Decoded → Except Undecodable Decoded → Prop
  | refused (first second : Undecodable) : Agree (.error first) (.error second)
  | decoded (format : Format) (payload : Json) (usedFallback : Bool) :
    Agree (.ok ⟨format, payload, usedFallback⟩) (.ok ⟨format, payload, !usedFallback⟩)

/-- A decoding gives JSON. -/
def GivesJson (outcome : Except Undecodable Decoded) : Prop :=
  ∃ decoded, outcome = .ok decoded ∧ decoded.format = .json

/-- What a decoding gives is what the text says: the value of a text in JSON, and a document in XML as
the text that it is. -/
def GivesText (text : String) (decoded : Decoded) : Prop :=
  match decoded.format with
  | .json => Json.read text = .ok decoded.payload
  | .xml => (∃ root, Xml.read text = .ok root) ∧ decoded.payload = .string text

/-- A text that is decoded was in the format that it is said to be in. -/
theorem givesText_of_readAs (h : readAs format text = .ok payload) (usedFallback : Bool) :
    GivesText text ⟨format, payload, usedFallback⟩ := by
  cases format with
  | json => exact readAs_json.mp h
  | xml => exact readAs_xml.mp h

/-- **The preference decides nothing but which format counts as the fallback,** a text that is not
blank is decoded as JSON exactly if it is JSON, and its payload is what the text says. -/
theorem decode_agree (text : String) (hblank : isBlankText text = false) :
    Agree (decode (some text) .json) (decode (some text) .xml) ∧
      (∀ preferred, GivesJson (decode (some text) preferred) ↔
        ∃ value, Json.read text = .ok value) ∧
      ∀ preferred decoded, decode (some text) preferred = .ok decoded → GivesText text decoded := by
  by_cases hread : ∃ format payload, readAs format text = .ok payload
  · obtain ⟨format, payload, hread⟩ := hread
    have hdecode := decode_of_readAs hblank hread
    refine ⟨?_, fun preferred => ?_, fun preferred decoded hdecoded => ?_⟩
    · rw [hdecode, hdecode]
      cases format with
      | json => exact .decoded .json payload false
      | xml => exact .decoded .xml payload true
    · rw [hdecode]
      constructor
      · rintro ⟨_, heq, hjson⟩
        cases heq
        cases hjson
        exact ⟨payload, readAs_json.mp hread⟩
      · rintro ⟨value, hvalue⟩
        have hjson := decode_of_readAs hblank (readAs_json.mpr hvalue) .json
        have hsame := (hdecode .json).symm.trans hjson
        exact ⟨_, rfl, congrArg Decoded.format (Except.ok.inj hsame)⟩
    · rw [hdecode] at hdecoded
      cases hdecoded
      exact givesText_of_readAs hread _
  · have hrefused : ∀ format, ∃ fault, readAs format text = .error fault := fun format => by
      cases hformat : readAs format text with
      | error fault => exact ⟨fault, rfl⟩
      | ok payload => exact absurd ⟨format, payload, hformat⟩ hread
    have hdecode := decode_of_refused hblank hrefused
    refine ⟨?_, fun preferred => ?_, fun preferred decoded hdecoded => ?_⟩
    · obtain ⟨first, hfirst⟩ := hdecode .json
      obtain ⟨second, hsecond⟩ := hdecode .xml
      rw [hfirst, hsecond]
      exact .refused first second
    · obtain ⟨failure, hfailure⟩ := hdecode preferred
      rw [hfailure]
      constructor
      · rintro ⟨_, heq, -⟩
        cases heq
      · rintro ⟨value, hvalue⟩
        exact absurd ⟨.json, value, readAs_json.mpr hvalue⟩ hread
    · obtain ⟨failure, hfailure⟩ := hdecode preferred
      rw [hfailure] at hdecoded
      cases hdecoded

/-- A word that is no value elsewhere is decoded as JSON even when XML is preferred. -/
theorem decode_agree_word :
    isBlankText " NaN" = false ∧
      Agree (decode (some " NaN") .json) (decode (some " NaN") .xml) ∧
      GivesJson (decode (some " NaN") .xml) :=
  have hagree := decode_agree " NaN" (by decide)
  ⟨by decide, hagree.1, (hagree.2.1 .xml).mpr ⟨.float .nan, rfl⟩⟩

end ODataExplorer.Payload
