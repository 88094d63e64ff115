import ODataExplorer.Proofs.Payload.Count
import ODataExplorer.Service.Data

/-!
The rows of payloads.

Taking rows out of a payload cannot fail, whatever the payload is; reading the total beside them
can. Main statement: a payload is delivered with its rows and the total it says exactly if its count
is readable, and then so is the query that fetched it (`rows_delivered`). A text that looks like a
count and is no number takes the rows with it (`rows_lost`).
-/

namespace ODataExplorer.Service

open Payload

/-- The rows of a payload with the total that it says. -/
def RowsAnswer.ofPayload (payload : Json) : RowsAnswer :=
  ⟨Payload.rows payload, saidTotal? payload⟩

theorem normalize_of_hasReadableCount {payload : Json} (h : HasReadableCount payload) :
    normalize payload = .ok (.ofPayload payload) := by
  rw [normalize, totalCount_of_hasReadableCount h]
  rfl

theorem normalize_of_not_hasReadableCount {payload : Json} (h : ¬HasReadableCount payload) :
    ∃ fault, normalize payload = .error (.count fault) := by
  obtain ⟨fault, hfault⟩ := totalCount_of_not_hasReadableCount h
  refine ⟨fault, ?_⟩
  rw [normalize, hfault]

/-- A query is answered as what comes of its fetch is. -/
theorem value_run_execute {σ : Type} (source : Source σ Decoded) (state : σ)
    (request : Validation.CompileRequest) :
    ((execute request).run source state).1.value =
      (answerData (compile request) (source (compile request).url state).1.value).value := rfl

/-- Fetched data is answered as its payload is. -/
theorem value_answerData_ok (compiled : Query.Compiled) (decoded : Decoded) :
    (answerData compiled (.ok decoded)).value =
      (normalize decoded.payload).map fun rows =>
        ⟨compiled, decoded.format, decoded.usedFallback, rows⟩ := rfl

/-- **A payload is delivered exactly if its count is readable:** with its rows and the total that it
says, both when it is given and when a query fetched it. -/
theorem rows_delivered (payload : Json) :
    (HasReadableCount payload ↔ ∃ answer, normalize payload = .ok answer) ∧
      (HasReadableCount payload →
        normalize payload = .ok (.ofPayload payload) ∧
        ∀ {σ : Type} (source : Source σ Decoded) (state : σ) (request : Validation.CompileRequest)
          (decoded : Decoded), (source (compile request).url state).1.value = .ok decoded →
          decoded.payload = payload →
          ((execute request).run source state).1.value =
            .ok ⟨compile request, decoded.format, decoded.usedFallback, .ofPayload payload⟩) := by
  refine ⟨⟨fun h => ⟨_, normalize_of_hasReadableCount h⟩, ?_⟩, fun h => ⟨?_, ?_⟩⟩
  · rintro ⟨answer, hanswer⟩
    by_contra hunreadable
    obtain ⟨fault, hfault⟩ := normalize_of_not_hasReadableCount hunreadable
    rw [hfault] at hanswer
    cases hanswer
  · exact normalize_of_hasReadableCount h
  · rintro σ source state request decoded hfetched rfl
    rw [value_run_execute, hfetched, value_answerData_ok, normalize_of_hasReadableCount h]
    rfl

/-- A payload with a truth value in the first place for a count, and with blanks around a number in
the last. -/
def passedOver : Json := .object [
  ("@odata.count", .bool true),
  ("d", .object [("__count", .string " 830 "), ("results", .array [.int 1])])]

theorem rows_delivered_passedOver :
    HasReadableCount passedOver ∧
      normalize passedOver = .ok ⟨.array [.int 1], some 830⟩ ∧
      ((execute ⟨"http://h/$metadata", "2.0", { set := "S" }, none⟩).run
          (fun _ state => (⟨.ok ⟨.json, passedOver, false⟩, []⟩, state)) ()).1.value =
        .ok ⟨compile ⟨"http://h/$metadata", "2.0", { set := "S" }, none⟩, .json, false,
          .array [.int 1], some 830⟩ := by
  have hreadable : HasReadableCount passedOver := by
    intro text htext
    cases htext
    decide
  obtain ⟨hgiven, hfetched⟩ := (rows_delivered passedOver).2 hreadable
  exact ⟨hreadable, hgiven, hfetched _ () _ ⟨.json, passedOver, false⟩ rfl rfl⟩

/-- **A superscript looks like a count and is no number,** and a payload that holds one gives no
rows. -/
theorem rows_lost :
    normalize (.object [("@odata.count", .string "²"), ("value", .array [.int 1])]) =
      .error (.count (.notAnInteger "²")) := rfl

end ODataExplorer.Service
