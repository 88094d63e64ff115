import ODataExplorer.Proofs.Fetch.Served
import ODataExplorer.Proofs.Payload.Envelope
import ODataExplorer.Proofs.Service.Rows

/-!
Answers that do not show the dialect.

A service may answer in another dialect than the one it declares, so what callers are told of its
rows must not depend on the envelope. Main statement: rows that are wrapped in the envelope of any
dialect are delivered as they were, with the total that the envelope says (`delivered_of_wraps`),
both where the payload is given and where a query fetched it, whatever version the request declares.
-/

namespace ODataExplorer.Service

open Payload (Wraps SaysTotal)

/-- A payload is delivered with an answer: when it is given, and when a query fetches a text that the
client decodes to it. -/
structure Delivered (payload : Json) (answer : RowsAnswer) : Prop where
  rows_eq : Payload.rows payload = answer.rows
  total_eq : Payload.totalCount payload = .ok answer.total?
  given : normalize payload = .ok answer
  fetched : ∀ (client : Fetch.Client) (request : Validation.CompileRequest) (traffic : Traffic)
    (text : String) (decoded : Payload.Decoded),
    (Fetch.fetchText client (compile request).url "application/json" traffic.replies).result =
      .ok text →
    client.decode text = .ok decoded → decoded.payload = payload →
    ((execute request).run (data client) traffic).1.value =
      .ok ⟨compile request, decoded.format, decoded.usedFallback, answer⟩

theorem value_data (client : Fetch.Client) (url : String) (traffic : Traffic) :
    (data client url traffic).1.value =
      (Fetch.fetchData client url traffic.replies).result.mapError .ofFetch := rfl

/-- A payload whose total can be read is delivered with its rows. -/
theorem delivered_of_totalCount {payload : Json} {total? : Option Int}
    (h : Payload.totalCount payload = .ok total?) :
    Delivered payload ⟨Payload.rows payload, total?⟩ := by
  have hgiven : normalize payload = .ok ⟨Payload.rows payload, total?⟩ := by rw [normalize, h]
  refine ⟨rfl, h, hgiven, ?_⟩
  rintro client request traffic text decoded htext hdecode rfl
  have hfetched : (data client (compile request).url traffic).1.value = .ok decoded := by
    rw [value_data, Fetch.result_fetchData htext, hdecode]
    rfl
  rw [value_run_execute, hfetched, value_answerData_ok, hgiven]
  rfl

/-- **Rows are delivered as they were wrapped, in whatever dialect,** and so is the total. -/
theorem delivered_of_wraps {count? : Option Json} {rows payload : Json}
    (h : Wraps count? rows payload) :
    Payload.rows payload = rows ∧
      ∀ total?, SaysTotal count? total? → Delivered payload ⟨rows, total?⟩ := by
  have hrows := Payload.rows_of_wraps h
  refine ⟨hrows, fun total? hsays => ?_⟩
  have htotal := Payload.totalCount_of_wraps h
  rw [Payload.countOf_of_saysTotal hsays] at htotal
  have hdelivered := delivered_of_totalCount htotal
  rwa [hrows] at hdelivered

/-- Rows that look like an envelope themselves. -/
def wrappedRows : List Json := [.object [("value", .array [.int 1]), ("__count", .int 2)]]

/-- The rows in an older envelope, with a count that is a text and with annotations beside them. -/
def olderPayload : Json := .object [
  ("a", .null),
  ("d", .object [("results", .array wrappedRows), ("__count", .string " 830"), ("b", .array [])])]

theorem wraps_olderPayload :
    Wraps (some (.string " 830")) (.array wrappedRows) olderPayload := by
  have houter : Payload.HoldsOnly Payload.payloadNames
      [("d", .object [("results", .array wrappedRows), ("__count", .string " 830"),
        ("b", .array [])])] _ :=
    @Payload.holdsOnly_append _ [("a", .null)] [] _ (by decide) (by decide)
  have hinner : Payload.HoldsOnly Payload.wrapperNames
      (Payload.countMember "__count" (some (.string " 830")) ++ [("results", .array wrappedRows)])
      [("results", .array wrappedRows), ("__count", .string " 830"), ("b", .array [])] := by
    intro name hname
    simp only [Payload.wrapperNames, List.mem_cons, List.not_mem_nil, or_false] at hname
    obtain rfl | rfl := hname <;> rfl
  exact .verbose houter hinner

/-- The least text in an older envelope. -/
def olderText : String := "\x7b\"d\":[]\x7d"

/-- There is room for the text in any room of two levels. -/
theorem readWithin_olderText {room : Room} (h : room = .unbounded ∨ room = .standard) :
    Json.readWithin room olderText = .ok (.object [("d", .array [])]) := by
  have hname : ∀ opening, Json.readString opening [] ['d', '"', ':', '[', ']', '\x7d'] =
      .ok (.text "d", [':', '[', ']', '\x7d']) := fun opening => by
    simp [Json.readString, Text.Wording.ofPoints]
  have hmembers : ∀ inner, inner = .unbounded ∨ inner = .levels 949 →
      Json.readMembers 16 inner [] ['"', 'd', '"', ':', '[', ']', '\x7d'] =
        .ok (.object [("d", .array [])], []) := by
    intro inner hinner
    rw [Json.readMembers, hname]
    obtain rfl | rfl := hinner <;> rfl
  have hread : Json.readDocument room ['\x7b', '"', 'd', '"', ':', '[', ']', '\x7d'] =
      .ok (.object [("d", .array [])]) := by
    obtain rfl | rfl := h
    all_goals
      simp [Json.readDocument, Json.skipSpace, Json.isSpace, Json.readValue, Room.inside?,
        Room.standard, hmembers, bind, Except.bind, pure, Except.pure]
  have hchars : olderText.toList = ['\x7b', '"', 'd', '"', ':', '[', ']', '\x7d'] := by decide
  rw [Json.readWithin, hchars, hread]

theorem decode_olderText :
    Fetch.Client.decode {} olderText = .ok ⟨.json, .object [("d", .array [])], false⟩ := by
  have hroom : Json.overflow? .standard olderText = none := by
    rw [Json.overflow?, readWithin_olderText (.inr rfl)]
  have hpresent : Payload.isAbsent (some olderText) = false := by decide
  have hjson : Payload.readAs .json olderText = .ok (.object [("d", .array [])]) := by
    rw [Payload.readAs, Json.read, readWithin_olderText (.inl rfl)]
  rw [Fetch.Client.decode, hroom, Payload.decode, hpresent]
  simp [hjson, Except.mapError]

/-- A query of a service that declares a newer version than it speaks. -/
def newerRequest : Validation.CompileRequest :=
  ⟨"http://h/$metadata", "4.0", { set := "S" }, none⟩

theorem delivered_of_wraps_older :
    (Wraps (some (.string " 830")) (.array wrappedRows) olderPayload ∧
      SaysTotal (some (.string " 830")) (some 830) ∧
      normalize olderPayload = .ok ⟨.array wrappedRows, some 830⟩) ∧
    Wraps none (.array []) (.object [("d", .array [])]) ∧
      ((execute newerRequest).run (data {})
          ⟨[.response ⟨200, [], .whole (Text.Utf8.encode olderText.toList)⟩], []⟩).1.value =
        .ok ⟨compile newerRequest, .json, false, .array [], none⟩ := by
  have hsays : SaysTotal (some (.string " 830")) (some 830) :=
    @Payload.saysTotal_decimal 830 [' '] [] (by decide) (List.all_eq_true.mp rfl)
      (List.all_eq_true.mp rfl)
  have hearly : Wraps none (.array []) (.object [("d", .array [])]) := .early fun _ _ => rfl
  have hserves : Fetch.Serves {} (compile newerRequest).url olderText
      [.response ⟨200, [], .whole (Text.Utf8.encode olderText.toList)⟩] :=
    { agent := by decide
      address := ⟨_, rfl, rfl⟩
      response := ⟨_, [], rfl, rfl, ⟨_, rfl⟩, ⟨_, rfl, rfl⟩, fun _ => ⟨by decide, by decide⟩,
        by decide⟩ }
  refine ⟨⟨wraps_olderPayload, hsays, ?_⟩, hearly, ?_⟩
  · exact ((delivered_of_wraps wraps_olderPayload).2 _ hsays).given
  · exact ((delivered_of_wraps hearly).2 _ .absent).fetched {} newerRequest _ olderText _
      (Fetch.fetchText_of_serves hserves) decode_olderText rfl

end ODataExplorer.Service
