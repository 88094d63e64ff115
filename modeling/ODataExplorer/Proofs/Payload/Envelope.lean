import ODataExplorer.Proofs.Payload.Count

/-!
The envelopes of the dialects.

Each dialect wraps rows, and the count beside them, in an envelope of its own. `Wraps` lists the
envelopes by what stands under the names that the service looks at; under all other names an object
may hold anything, and so may the rows. Whatever the envelope, the rows that are taken out are those
that were wrapped (`rows_of_wraps`), and one place decides on the total, the one in which the dialect
has its count (`totalCount_of_wraps`).
-/

namespace ODataExplorer.Payload

open Text Number

/-! ## Members -/

/-- The names that a payload is asked for. -/
def payloadNames : List String := ["value", "d"] ++ countNames

/-- The names that the inside of the older wrapper is asked for. -/
def wrapperNames : List String := ["results", "__count"]

/-- The members with a reserved name are the given ones. There may be any others. -/
def HoldsOnly (reserved : List String) (given members : List (String × Json)) : Prop :=
  ∀ name ∈ reserved, members.lookup name = given.lookup name

theorem lookup_eq_none {name : String} {members : List (String × Json)}
    (h : ∀ member ∈ members, member.1 ≠ name) : members.lookup name = none := by
  rw [List.lookup_eq_none_iff]
  exact fun member hmember => bne_iff_ne.mpr (h member hmember).symm

/-- Members with other names make no difference, wherever they stand. -/
theorem holdsOnly_append {reserved : List String} {before after : List (String × Json)}
    (given : List (String × Json)) (hbefore : ∀ member ∈ before, member.1 ∉ reserved)
    (hafter : ∀ member ∈ after, member.1 ∉ reserved) :
    HoldsOnly reserved given (before ++ given ++ after) := by
  intro name hname
  have hnone : ∀ extra : List (String × Json), (∀ member ∈ extra, member.1 ∉ reserved) →
      extra.lookup name = none := fun extra hextra =>
    lookup_eq_none fun member hmember heq => hextra member hmember (heq ▸ hname)
  rw [List.lookup_append, List.lookup_append, hnone before hbefore, hnone after hafter,
    Option.none_or, Option.or_none]

/-! ## Envelopes -/

/-- The member that says the count under a name, if it is said. -/
def countMember (name : String) (count? : Option Json) : List (String × Json) :=
  (count?.map (name, ·)).toList

/-- A payload wraps rows as a dialect does, with the count beside them if there is one. A single
entity is wrapped like rows, and its count is its own. -/
inductive Wraps (count? : Option Json) : Json → Json → Prop
  | modern {rows : List Json} {members : List (String × Json)}
    (h : HoldsOnly payloadNames (countMember "@odata.count" count? ++ [("value", .array rows)])
      members) : Wraps count? (.array rows) (.object members)
  | light {rows : List Json} {members : List (String × Json)}
    (h : HoldsOnly payloadNames (countMember "odata.count" count? ++ [("value", .array rows)])
      members) : Wraps count? (.array rows) (.object members)
  | verbose {rows : List Json} {members inner : List (String × Json)}
    (h : HoldsOnly payloadNames [("d", .object inner)] members)
    (hinner : HoldsOnly wrapperNames
      (countMember "__count" count? ++ [("results", .array rows)]) inner) :
    Wraps count? (.array rows) (.object members)
  | early {rows : List Json} {members : List (String × Json)}
    (h : HoldsOnly payloadNames (countMember "__count" count? ++ [("d", .array rows)]) members) :
    Wraps count? (.array rows) (.object members)
  | entity {members inner : List (String × Json)}
    (h : HoldsOnly payloadNames [("d", .object inner)] members)
    (hcount : inner.lookup "__count" = count?)
    (hresults : ∀ items, inner.lookup "results" ≠ some (.array items)) :
    Wraps count? (.object inner) (.object members)

variable {count? : Option Json} {total? : Option Int} {rows payload value : Json}

/-- The members that are asked for decide on the rows. -/
theorem rows_of_holdsOnly {given members : List (String × Json)}
    (h : HoldsOnly payloadNames given members) :
    Payload.rows (.object members) =
      match given.lookup "value" with
      | some (.array items) => .array items
      | _ => ((given.lookup "d").bind wrappedRows?).getD (.object members) := by
  show (match members.lookup "value" with
    | some (.array items) => Json.array items
    | _ => ((members.lookup "d").bind wrappedRows?).getD (.object members)) = _
  rw [h "value" (by decide), h "d" (by decide)]

/-- The members that are asked for decide on the places for a count. -/
theorem countCandidates_of_holdsOnly {given members : List (String × Json)}
    (h : HoldsOnly payloadNames given members) :
    countCandidates (.object members) = countCandidates (.object given) := by
  have hnames : ∀ name ∈ countNames, name ∈ payloadNames := fun _ => List.mem_append_right _
  rw [countCandidates, countCandidates, h "d" (by decide),
    List.map_congr_left fun name hname => by rw [h name (hnames name hname)]]

/-- **What is taken out of an envelope is what was wrapped in it,** whatever stands for the count. -/
theorem rows_of_wraps (h : Wraps count? rows payload) : Payload.rows payload = rows := by
  cases h with
  | modern h | light h | early h =>
    rw [rows_of_holdsOnly h]
    cases count? <;> rfl
  | @verbose rows members inner h hinner =>
    have hresults : inner.lookup "results" = some (.array rows) := by
      rw [hinner "results" (by decide)]
      cases count? <;> rfl
    rw [rows_of_holdsOnly h]
    show (wrappedRows? (.object inner)).getD (.object members) = .array rows
    rw [wrappedRows?, hresults]
    rfl
  | @entity members inner h _ hresults =>
    rw [rows_of_holdsOnly h]
    show (wrappedRows? (.object inner)).getD (.object members) = .object inner
    rw [wrappedRows?]
    split
    · next items hitems => exact absurd hitems (hresults items)
    · rfl

/-- Where only one place holds anything, that place decides on the total. -/
theorem totalCount_eq_countOf {before after : List Json}
    (h : countCandidates payload = before ++ value :: after)
    (hnull : ∀ other ∈ before ++ after, other = .null) : totalCount payload = countOf value := by
  have hnone : ∀ places : List Json, (∀ place ∈ places, place = .null) →
      askAll places = .ok none := by
    intro places
    induction places with
    | nil => exact fun _ => rfl
    | cons place places ih =>
      intro hplaces
      obtain ⟨rfl, hrest⟩ := List.forall_mem_cons.mp hplaces
      rw [askAll]
      exact ih hrest
  obtain ⟨hbefore, hafter⟩ := List.forall_mem_append.mp hnull
  rw [totalCount_eq_askAll, h, askAll_append, hnone before hbefore, askAll]
  cases countOf value with
  | error fault => rfl
  | ok said? =>
    cases said? with
    | some n => rfl
    | none => exact hnone after hafter

/-- **The total of a payload is what stands in the place of its dialect.** -/
theorem totalCount_of_wraps (h : Wraps count? rows payload) :
    totalCount payload = countOf (count?.getD .null) := by
  have hnull : ∀ n m, ∀ other ∈ List.replicate n Json.null ++ List.replicate m Json.null,
      other = .null := by
    intro n m other hother
    rw [List.replicate_append_replicate] at hother
    exact List.eq_of_mem_replicate hother
  cases h with
  | modern h =>
    refine totalCount_eq_countOf ?_ (hnull 0 2)
    rw [countCandidates_of_holdsOnly h]
    cases count? <;> rfl
  | light h =>
    refine totalCount_eq_countOf ?_ (hnull 1 1)
    rw [countCandidates_of_holdsOnly h]
    cases count? <;> rfl
  | early h =>
    refine totalCount_eq_countOf ?_ (hnull 2 0)
    rw [countCandidates_of_holdsOnly h]
    cases count? <;> rfl
  | @verbose rows members inner h hinner =>
    have hcount : inner.lookup "__count" = count? := by
      rw [hinner "__count" (by decide)]
      cases count? <;> rfl
    refine totalCount_eq_countOf ?_ (hnull 3 0)
    rw [countCandidates_of_holdsOnly h, ← hcount]
    rfl
  | entity h hcount =>
    refine totalCount_eq_countOf ?_ (hnull 3 0)
    rw [countCandidates_of_holdsOnly h, ← hcount]
    rfl

/-! ## Counts -/

/-- What stands for a count says a total: a natural number, a text that is a numeral once it is
trimmed, or nothing at all. -/
inductive SaysTotal : Option Json → Option Int → Prop
  | absent : SaysTotal none none
  | number (n : Nat) : SaysTotal (some (.int n)) (some n)
  | text {text : String} (h : IsNumeral (trim text)) :
    SaysTotal (some (.string text)) (some (numeralValue (trim text)))

theorem countOf_of_saysTotal (h : SaysTotal count? total?) :
    countOf (count?.getD .null) = .ok total? := by
  cases h with
  | absent => rfl
  | number n => rfl
  | text h => exact countOf_numeral h

/-- The decimal text of a number says it, with blanks around it or without. -/
theorem saysTotal_decimal {n : Nat} {before after : List Char} (h : (toString n).length ≤ maxDigits)
    (hbefore : ∀ c ∈ before, isBlank c = true) (hafter : ∀ c ∈ after, isBlank c = true) :
    SaysTotal (some (.string (String.ofList (before ++ (toString n).toList ++ after)))) (some n) := by
  have hnumeral := isNumeral_toString h
  have htrim : trim (String.ofList (before ++ (toString n).toList ++ after)) = toString n := by
    rw [trim, String.toList_ofList, trimWhile_append hbefore hafter, trimWhile_of_isDigit,
      String.ofList_toList]
    exact fun c hc => isDigit_of_isDecimal (hnumeral.decimal c hc)
  have hsays := SaysTotal.text (htrim.symm ▸ hnumeral)
  rwa [htrim, numeralValue_toString] at hsays

end ODataExplorer.Payload
