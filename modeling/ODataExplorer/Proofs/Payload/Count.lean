import ODataExplorer.Payload.Envelope
import ODataExplorer.Proofs.Number.Numeral

/-!
The count of a payload.

A payload has up to four places for a count, and they are asked in order. A place that holds neither
an integer nor a text of digits says nothing, and the next one is asked; so the total is what the
first place says that says anything (`totalCount_eq`). A text of digits says a number only if it is
a numeral. That leaves one way to fail: the place that decides holds a text of digits that is none
(`totalCount_of_hasReadableCount`, `totalCount_of_not_hasReadableCount`).
-/

namespace ODataExplorer.Payload

open Text Number

/-- What stands in the places for a count, in the order in which they are asked. Nothing stands in
a place that is not there. -/
def countCandidates : Json → List Json
  | .object members =>
    countNames.map (fun name => (members.lookup name).getD .null) ++
      match members.lookup "d" with
      | some (.object inner) => [(inner.lookup "__count").getD .null]
      | _ => []
  | _ => []

/-- Whether a value says anything of a count: integers do, and texts of digits. -/
def saysCount : Json → Bool
  | .int _ => true
  | .string text => isDigitText (trim text)
  | _ => false

/-- The number that a value says. -/
def saidNumber? : Json → Option Int
  | .int n => some n
  | .string text => some (numeralValue (trim text))
  | _ => none

/-- The value that decides on the count of a payload: the first that says anything. -/
def decidingCount? (payload : Json) : Option Json := (countCandidates payload).find? saysCount

/-- A text that decides on the count is a numeral. -/
def HasReadableCount (payload : Json) : Prop :=
  ∀ text, decidingCount? payload = some (.string text) → IsNumeral (trim text)

/-- The number that the deciding value says, if there is one. -/
def saidTotal? (payload : Json) : Option Int := (decidingCount? payload).bind saidNumber?

variable {value payload : Json}

/-! ## One value -/

/-- A value that says nothing gives no count. -/
theorem countOf_of_not_saysCount (h : saysCount value = false) : countOf value = .ok none := by
  cases value with
  | int => cases h
  | string text =>
    rw [countOf]
    exact if_neg (Bool.eq_false_iff.mp h)
  | null | bool | float | halved | array | object => rfl

/-- A value that says something gives a number, or cannot be read. -/
theorem countOf_of_saysCount (h : saysCount value = true) :
    (∃ n, countOf value = .ok (some n)) ∨ ∃ fault, countOf value = .error fault := by
  cases value with
  | int n => exact .inl ⟨n, rfl⟩
  | string text =>
    have hread : countOf (.string text) = (readInteger (trim text)).map some := if_pos h
    rw [hread]
    cases readInteger (trim text) with
    | ok n => exact .inl ⟨n, rfl⟩
    | error fault => exact .inr ⟨fault, rfl⟩
  | null | bool | float | halved | array | object => cases h

theorem countOf_numeral {text : String} (h : IsNumeral (trim text)) :
    countOf (.string text) = .ok (some (numeralValue (trim text))) := by
  rw [countOf]
  simp only [isDigitText_of_isNumeral h, if_pos, readInteger_of_isNumeral h]
  rfl

/-! ## The places -/

/-- What asking one place after another comes to. -/
def askAll : List Json → Except IntegerFault (Option Int)
  | [] => .ok none
  | value :: rest => do
    match ← countOf value with
    | some n => return some n
    | none => askAll rest

theorem firstCount_eq_askAll (members : List (String × Json)) (names : List String) :
    firstCount members names =
      askAll (names.map fun name => (members.lookup name).getD .null) := by
  induction names with
  | nil => rfl
  | cons name names ih =>
    rw [List.map_cons, askAll, ← ih]
    rfl

/-- Asking the places of two lists is asking those of the first and, if none says anything, those of
the second. -/
theorem askAll_append (first second : List Json) :
    askAll (first ++ second) = (do
      match ← askAll first with
      | some n => return some n
      | none => askAll second) := by
  induction first with
  | nil => rfl
  | cons value rest ih =>
    rw [List.cons_append, askAll, askAll, ih]
    cases countOf value with
    | error fault => rfl
    | ok said? => cases said? <;> rfl

theorem totalCount_eq_askAll (payload : Json) :
    totalCount payload = askAll (countCandidates payload) := by
  cases payload with
  | object members =>
    rw [countCandidates, askAll_append, ← firstCount_eq_askAll, totalCount]
    cases firstCount members countNames with
    | error fault => rfl
    | ok said? =>
      cases said? with
      | some n => rfl
      | none =>
        show (match members.lookup "d" with
          | some (.object inner) => countOf ((inner.lookup "__count").getD .null)
          | _ => .ok none) = askAll _
        split
        · next inner _ =>
          rw [askAll]
          cases countOf ((inner.lookup "__count").getD .null) with
          | error fault => rfl
          | ok said? => cases said? <;> rfl
        · rfl
  | null | bool | int | float | string | halved | array => rfl

/-- The first place that says anything decides. -/
theorem askAll_eq (candidates : List Json) :
    askAll candidates =
      match candidates.find? saysCount with
      | some value => countOf value
      | none => .ok none := by
  induction candidates with
  | nil => rfl
  | cons value rest ih =>
    cases hcount : saysCount value with
    | false =>
      rw [askAll, countOf_of_not_saysCount hcount,
        List.find?_cons_of_neg (Bool.eq_false_iff.mp hcount)]
      exact ih
    | true =>
      rw [askAll, List.find?_cons_of_pos hcount]
      obtain ⟨n, hn⟩ | ⟨fault, hfault⟩ := countOf_of_saysCount hcount
      · simp only [hn]
        rfl
      · simp only [hfault]
        rfl

/-- **The total is what the first place says that says anything.** -/
theorem totalCount_eq (payload : Json) :
    totalCount payload =
      match decidingCount? payload with
      | some value => countOf value
      | none => .ok none := by
  rw [totalCount_eq_askAll, askAll_eq]
  rfl

/-- **A payload whose count is readable has the total that it says,** if it says one. -/
theorem totalCount_of_hasReadableCount (h : HasReadableCount payload) :
    totalCount payload = .ok (saidTotal? payload) := by
  rw [totalCount_eq, saidTotal?]
  cases hvalue : decidingCount? payload with
  | none => rfl
  | some value =>
    have hcount : saysCount value = true := List.find?_some hvalue
    cases value with
    | int n => rfl
    | string text => exact countOf_numeral (h text hvalue)
    | null | bool | float | halved | array | object => cases hcount

/-- **The total of any other payload cannot be read.** -/
theorem totalCount_of_not_hasReadableCount (h : ¬HasReadableCount payload) :
    ∃ fault, totalCount payload = .error fault := by
  obtain ⟨text, hvalue, hfalse⟩ : ∃ text, decidingCount? payload = some (.string text) ∧
      ¬IsNumeral (trim text) := by
    simpa only [HasReadableCount, Classical.not_forall, exists_prop] using h
  have hcount : saysCount (.string text) = true := List.find?_some hvalue
  obtain ⟨fault, hfault⟩ := readInteger_of_isFalseNumeral ⟨hcount, hfalse⟩
  refine ⟨fault, ?_⟩
  have hread : countOf (.string text) = (readInteger (trim text)).map some := if_pos hcount
  simp only [totalCount_eq, hvalue, hread, hfault]
  rfl

end ODataExplorer.Payload
