import ODataExplorer.Proofs.Csdl.Lookup

/-!
Lookups by rank.

The rank of a tag for a name says how exactly it fits (`rank?`): the bare name fits best, then the
name in a namespace of the envelope, then in one of the data model, and last any tag with the local
name. The tiers of a lookup are tried one after another and overlap, since the last one admits what
the others admit. Yet what comes out is one filter of the candidates: those of the least rank that
occurs (`lookup_eq_ofLeastRank`).

The proof is an induction on the tiers. A tier that finds something leaves rank zero for what it
found, and a tier that finds nothing moves every rank by one.

Main statement: below an element the elements of least rank are found, all of them, in document
order and each once (`places_ofLeastRank`).
-/

namespace ODataExplorer.Csdl

open Xml

variable {α : Type}

/-! ## The least rank -/

/-- The items whose rank is the least one that occurs. Items without a rank are left out. -/
def ofLeastRank (rankOf? : α → Option Nat) (items : List α) : List α :=
  match (items.filterMap rankOf?).min? with
  | none => []
  | some least => items.filter fun item => rankOf? item == some least

variable {rankOf? : α → Option Nat} {items : List α}

/-- Where no item has a rank, there is none of the least rank. -/
theorem ofLeastRank_eq_nil (h : ∀ item ∈ items, rankOf? item = none) :
    ofLeastRank rankOf? items = [] := by
  unfold ofLeastRank
  rw [List.filterMap_eq_nil_iff.mpr h]
  rfl

/-- No rank is less than zero. -/
theorem ofLeastRank_of_zero (h : ∃ item ∈ items, rankOf? item = some 0) :
    ofLeastRank rankOf? items = items.filter fun item => rankOf? item == some 0 := by
  have hleast : (items.filterMap rankOf?).min? = some 0 := by
    rw [List.min?_eq_some_iff]
    exact ⟨List.mem_filterMap.mpr h, fun rank _ => Nat.zero_le rank⟩
  unfold ofLeastRank
  rw [hleast]

/-- Moving every rank by one changes nothing about which is the least. -/
theorem ofLeastRank_succ {laterOf? : α → Option Nat}
    (h : ∀ item ∈ items, rankOf? item = (laterOf? item).map (· + 1)) :
    ofLeastRank rankOf? items = ofLeastRank laterOf? items := by
  have hranks : items.filterMap rankOf? = (items.filterMap laterOf?).map (· + 1) := by
    rw [List.map_filterMap]
    exact List.filterMap_congr h
  unfold ofLeastRank
  rw [hranks]
  cases hleast : (items.filterMap laterOf?).min? with
  | none =>
    rw [List.min?_eq_none_iff] at hleast
    rw [hleast]
    rfl
  | some least =>
    have hmoved : ((items.filterMap laterOf?).map (· + 1)).min? = some (least + 1) := by
      rw [List.min?_eq_some_iff] at hleast ⊢
      obtain ⟨hmem, hle⟩ := hleast
      refine ⟨List.mem_map_of_mem hmem, fun rank hrank => ?_⟩
      obtain ⟨later, hlater, rfl⟩ := List.mem_map.mp hrank
      exact Nat.succ_le_succ (hle later hlater)
    rw [hmoved]
    apply List.filter_congr
    intro item hitem
    rw [h item hitem]
    cases laterOf? item <;> simp

/-! ## Ranks of tags -/

/-- How exactly a tag fits a name, less being more exact. A tag with another local name does not
fit. -/
def rank? (name tag : String) : Option Nat :=
  if tag = name then some 0
  else if ∃ uri ∈ envelopeNamespaces, tag = qualify uri name then some 1
  else if ∃ uri ∈ modelNamespaces, tag = qualify uri name then some 2
  else if localName tag = name then some 3
  else none

variable {name tag : String}

/-- The rank of a tag is the place of the first tier that admits it. -/
theorem rank?_eq_findIdx? (name tag : String) :
    rank? name tag = Tier.all.findIdx? fun tier => tier.admits name tag := by
  simp only [rank?, Tier.all, List.findIdx?_cons, List.findIdx?_nil, Tier.admits, beq_iff_eq,
    List.any_eq_true]
  by_cases hbare : tag = name
  · simp only [if_pos hbare]
  by_cases henvelope : ∃ uri ∈ envelopeNamespaces, tag = qualify uri name
  · simp only [if_neg hbare, if_pos henvelope, Option.map_some, Nat.zero_add]
  by_cases hmodel : ∃ uri ∈ modelNamespaces, tag = qualify uri name
  · simp only [if_neg hbare, if_neg henvelope, if_pos hmodel, Option.map_some, Nat.zero_add]
  by_cases hlocal : localName tag = name
  · simp only [if_neg hbare, if_neg henvelope, if_neg hmodel, if_pos hlocal, Option.map_some,
      Nat.zero_add]
  · simp only [if_neg hbare, if_neg henvelope, if_neg hmodel, if_neg hlocal, Option.map_none]

/-! ## Lookups -/

variable {tagOf : α → String} {candidates : List α}

/-- **Tiers tried in turn find the candidates of least rank,** where the rank of a candidate is the
place of the first tier that admits it. -/
theorem narrow_eq_ofLeastRank (tagOf : α → String) (name : String) (candidates : List α)
    (tiers : List Tier) :
    narrow tagOf name candidates tiers =
      ofLeastRank (fun c => tiers.findIdx? fun tier => tier.admits name (tagOf c)) candidates := by
  induction tiers with
  | nil => exact (ofLeastRank_eq_nil fun _ _ => rfl).symm
  | cons tier tiers ih =>
    simp only [narrow, List.findIdx?_cons]
    by_cases hfound : ∃ c ∈ candidates, tier.admits name (tagOf c) = true
    · obtain ⟨c, hc, hadmits⟩ := hfound
      rw [ofLeastRank_of_zero ⟨c, hc, if_pos hadmits⟩, if_neg]
      · apply List.filter_congr
        intro other _
        -- what is admitted has rank zero, and a rank that was moved is not zero
        cases hother : tier.admits name (tagOf other) with
        | true => rfl
        | false => cases tiers.findIdx? (fun tier => tier.admits name (tagOf other)) <;> rfl
      · rw [List.isEmpty_iff]
        exact List.ne_nil_of_mem (List.mem_filter.mpr ⟨hc, hadmits⟩)
    · have hnone : ∀ c ∈ candidates, ¬tier.admits name (tagOf c) = true :=
        fun c hc hadmits => hfound ⟨c, hc, hadmits⟩
      rw [List.filter_eq_nil_iff.mpr hnone, ih]
      exact (ofLeastRank_succ fun c hc => if_neg (hnone c hc)).symm

/-- **A lookup finds the candidates of least rank,** in their order. -/
theorem lookup_eq_ofLeastRank (hne : name ≠ "") :
    lookup tagOf name candidates = ofLeastRank (fun c => rank? name (tagOf c)) candidates := by
  have hempty : ¬name.isEmpty = true := fun hempty => hne (String.isEmpty_iff.mp hempty)
  unfold lookup
  rw [if_neg hempty, narrow_eq_ofLeastRank]
  simp only [rank?_eq_findIdx?]

/-- Tags with the name that share a rank are of one tier. -/
theorem tierOf_eq_of_rank?_eq {tag other : String} (htag : localName tag = name)
    (hother : localName other = name) (h : rank? name tag = rank? name other) :
    tierOf tag = tierOf other := by
  rw [rank?_eq_findIdx?, rank?_eq_findIdx?] at h
  rw [tierOf, tierOf, htag, hother, List.find?_eq_bind_findIdx?_getElem?,
    List.find?_eq_bind_findIdx?_getElem?, h]

/-! ## Elements and places -/

/-- A place is not among those below it. -/
theorem notMem_placesNamed (name : String) (container : Place) :
    container ∉ placesNamed name container := by
  intro hmem
  have hlt := (Place.index_lt_of_mem (placesNamed_subset name container hmem)).1
  exact Nat.lt_irrefl _ hlt

/-- **Below an element, the elements of least rank are found.** They come in document order, none of
them twice, and the element itself is none of them. For a name that is its own local name, something
is found exactly if some element below has that local name, and what is found has it; where the
elements with the local name share one rank, all of them are found. -/
theorem places_ofLeastRank (hne : name ≠ "") (container : Place) :
    findAll name container.element =
        ofLeastRank (fun element => rank? name element.tag) container.element.descendants ∧
      findFirst? name container.element =
        (ofLeastRank (fun element => rank? name element.tag) container.element.descendants).head? ∧
      (placesNamed name container).map (·.element) = findAll name container.element ∧
      placesNamed name container =
        ofLeastRank (fun place => rank? name place.element.tag) container.descendants ∧
      Place.InOrder (placesNamed name container) ∧ container ∉ placesNamed name container ∧
      (IsPlain name →
        (findAll name container.element = [] ↔
          ∀ element ∈ container.element.descendants, localName element.tag ≠ name) ∧
        (∀ element ∈ findAll name container.element, localName element.tag = name) ∧
        ((∀ a ∈ container.element.descendants, ∀ b ∈ container.element.descendants,
            localName a.tag = name → localName b.tag = name →
              rank? name a.tag = rank? name b.tag) →
          findAll name container.element =
            container.element.descendants.filter fun element => localName element.tag == name)) := by
  have hfound : findAll name container.element =
      ofLeastRank (fun element => rank? name element.tag) container.element.descendants :=
    lookup_eq_ofLeastRank hne
  refine ⟨hfound, congrArg List.head? hfound, map_element_placesNamed name container,
    lookup_eq_ofLeastRank hne, inOrder_placesNamed name container,
    notMem_placesNamed name container, fun hplain => ⟨?_, ?_, ?_⟩⟩
  · exact lookup_eq_nil_iff hplain hne
  · intro element hmem
    exact localName_of_mem_lookup hplain hmem
  · intro hrank
    apply lookup_eq_filter hplain hne
    intro a ha b hb haname hbname
    exact tierOf_eq_of_rank?_eq haname hbname (hrank a ha b hb haname hbname)

/-- A document in which the name of a schema occurs in a foreign namespace, in two revisions of the
data model, one inside the other, and as a part of another name. -/
def mixedSchemas : Element :=
  .node "Schema" [] [
    .node "\x7burn:other\x7dSchema" [] [],
    .node "\x7bhttp://docs.oasis-open.org/odata/ns/edm\x7dSchema" [("Alias", "A")] [
      .node "\x7bhttp://schemas.microsoft.com/ado/2006/04/edm\x7dSchema" [("Alias", "B")] []],
    .node "SchemaNote" [] []]

theorem places_ofLeastRank_mixedSchemas :
    "Schema" ≠ "" ∧ IsPlain "Schema" ∧
      (placesNamed "Schema" (Place.root mixedSchemas)).map (·.index) = [2, 3] ∧
      (findAll "Schema" mixedSchemas).map (·.getText "Alias") = ["A", "B"] := by
  have hne : "Schema" ≠ "" := by decide
  have hplain : IsPlain "Schema" := by decide
  obtain ⟨hfound, -, -, hplaces, -⟩ := places_ofLeastRank hne (Place.root mixedSchemas)
  refine ⟨hne, hplain, ?_, ?_⟩
  · rw [hplaces]
    decide
  · have helements : findAll "Schema" mixedSchemas = _ := hfound
    rw [helements]
    decide

end ODataExplorer.Csdl
