import Mathlib.Data.List.Forall2
import ODataExplorer.Csdl.Lookup
import ODataExplorer.Proofs.Text.Split
import ODataExplorer.Proofs.Xml.Place

/-!
Tiers and local names.

Every tag has a tier of its own, the first one in which it fits its own local name (`tierOf`). It is
the tier of the namespace it is in (`tierOf_tagIn`), and the only one below `anyNamespace` in which
it fits a name at all (`Tier.admits_iff`). So among candidates of which all with a name are of one
tier, the first successful tier finds every one of them: the tiered lookup is then a plain
comparison of local names (`lookup_eq_filter`).

Whatever tiers there are, a lookup leaves candidates out and changes nothing else
(`lookup_sublist`). So the places of a name are those of the elements that are found, in document
order.
-/

namespace ODataExplorer.Csdl

open Xml Text

/-! ## After the last occurrence -/

variable {sep : Char} {cs : List Char}

theorem afterLast_of_notMem (h : sep ∉ cs) : afterLast sep cs = cs := by
  have hall : ∀ c ∈ cs.reverse, (c != sep) = true := fun c hc =>
    bne_iff_ne.mpr fun heq => h (heq ▸ List.mem_reverse.mp hc)
  rw [afterLast, ← List.append_nil cs.reverse, List.takeWhile_append_of_pos hall,
    List.takeWhile_nil, List.append_nil, List.reverse_reverse]

/-- What stands after an occurrence that no other one follows. -/
theorem afterLast_append (before : List Char) (h : sep ∉ cs) :
    afterLast sep (before ++ sep :: cs) = cs := by
  have hall : ∀ c ∈ cs.reverse, (c != sep) = true := fun c hc =>
    bne_iff_ne.mpr fun heq => h (heq ▸ List.mem_reverse.mp hc)
  rw [afterLast, List.reverse_append, List.reverse_cons, List.append_assoc,
    List.takeWhile_append_of_pos hall, List.singleton_append, List.takeWhile_cons_of_neg,
    List.append_nil, List.reverse_reverse]
  rw [bne_self_eq_false]
  exact Bool.false_ne_true

theorem mem_of_mem_afterLast {c : Char} (h : c ∈ afterLast sep cs) : c ∈ cs :=
  List.mem_reverse.mp (List.takeWhile_subset _ (List.mem_reverse.mp h))

theorem notMem_afterLast : sep ∉ afterLast sep cs := by
  intro hmem
  have hne := List.all_eq_true.mp List.all_takeWhile sep (List.mem_reverse.mp hmem)
  exact bne_iff_ne.mp hne rfl

/-- A text without the separator stands last where it is all there is, or where a separator stands
in front of it. -/
theorem afterLast_eq_iff {last : List Char} (h : sep ∉ last) :
    afterLast sep cs = last ↔ cs = last ∨ ∃ before, cs = before ++ sep :: last := by
  constructor
  · intro heq
    by_cases hmem : sep ∈ cs
    · obtain ⟨before, after, rfl, hafter⟩ := exists_last_of_mem hmem
      rw [afterLast_append before hafter] at heq
      exact .inr ⟨before, by rw [heq]⟩
    · exact .inl (by rw [← heq, afterLast_of_notMem hmem])
  · rintro (rfl | ⟨before, rfl⟩)
    · exact afterLast_of_notMem h
    · exact afterLast_append before h

/-! ## Local names -/

/-- A name that is its own local name, whatever namespace it is in. -/
def IsPlain (name : String) : Prop := ':' ∉ name.toList ∧ '\x7d' ∉ name.toList

instance (name : String) : Decidable (IsPlain name) := inferInstanceAs (Decidable (_ ∧ _))

variable {name tag uri : String}

theorem IsPlain.localName_eq (h : IsPlain name) : localName name = name := by
  rw [localName, afterLast_of_notMem h.2, afterLast_of_notMem h.1, String.ofList_toList]

theorem isPlain_localName (name : String) : IsPlain (localName name) := by
  rw [IsPlain, localName, String.toList_ofList]
  exact ⟨notMem_afterLast, fun hmem => notMem_afterLast (mem_of_mem_afterLast hmem)⟩

theorem localName_localName (name : String) : localName (localName name) = localName name :=
  (isPlain_localName name).localName_eq

/-- A name in a namespace, or in none. -/
def tagIn (uri? : Option String) (name : String) : String :=
  match uri? with
  | none => name
  | some uri => qualify uri name

theorem IsPlain.localName_tagIn (h : IsPlain name) (uri? : Option String) :
    localName (tagIn uri? name) = name := by
  cases uri? with
  | none => exact h.localName_eq
  | some uri =>
    have hchars : (qualify uri name).toList =
        ("\x7b" ++ uri).toList ++ '\x7d' :: name.toList := by
      simp only [qualify, String.toList_append, List.append_assoc]
      rfl
    rw [tagIn, localName, hchars, afterLast_append _ h.2, afterLast_of_notMem h.1,
      String.ofList_toList]

theorem qualify_ne (uri name : String) : qualify uri name ≠ name := by
  intro heq
  have hlength := congrArg (fun s => s.toList.length) heq
  simp only [qualify, String.toList_append, List.length_append] at hlength
  have hbracket : "\x7b".toList.length = 1 := rfl
  omega

theorem qualify_inj {uri uri' : String} (h : qualify uri name = qualify uri' name) :
    uri = uri' := by
  have hchars := congrArg String.toList h
  simp only [qualify, String.toList_append, List.append_assoc] at hchars
  exact String.toList_inj.mp (List.append_cancel_right (List.append_cancel_left hchars))

/-- A tag and its name tell the namespace. -/
theorem tagIn_inj {uri? uri?' : Option String} (h : tagIn uri? name = tagIn uri?' name) :
    uri? = uri?' := by
  cases uri? with
  | none =>
    cases uri?' with
    | none => rfl
    | some uri' => exact absurd h.symm (qualify_ne uri' name)
  | some uri =>
    cases uri?' with
    | none => exact absurd h (qualify_ne uri name)
    | some uri' => rw [qualify_inj h]

/-! ## Tiers -/

/-- The tier of the names in a namespace, or in none. -/
def Tier.ofNamespace? : Option String → Tier
  | none => .bare
  | some uri =>
    if envelopeNamespaces.contains uri then .envelope
    else if modelNamespaces.contains uri then .model
    else .anyNamespace

/-- The tier of a tag: the first one in which it fits its own local name. -/
def tierOf (tag : String) : Tier :=
  (Tier.all.find? (·.admits (localName tag) tag)).getD .anyNamespace

theorem Tier.ofNamespace?_of_mem_envelope (h : uri ∈ envelopeNamespaces) :
    Tier.ofNamespace? (some uri) = .envelope :=
  if_pos (List.contains_iff_mem.mpr h)

theorem Tier.ofNamespace?_of_mem_model (h : uri ∈ modelNamespaces) :
    Tier.ofNamespace? (some uri) = .model := by
  have hdisjoint : ∀ uri ∈ modelNamespaces, uri ∉ envelopeNamespaces := by decide
  rw [Tier.ofNamespace?, if_neg, if_pos (List.contains_iff_mem.mpr h)]
  exact fun henvelope => hdisjoint uri h (List.contains_iff_mem.mp henvelope)

/-- Below the last tier a tag fits a name when it is the name in a namespace of the tier. -/
theorem Tier.admits_iff_tagIn {tier : Tier} (htier : tier ≠ .anyNamespace) :
    tier.admits name tag = true ↔
      ∃ uri?, tag = tagIn uri? name ∧ Tier.ofNamespace? uri? = tier := by
  constructor
  · intro hadmits
    cases tier with
    | bare => exact ⟨none, beq_iff_eq.mp hadmits, rfl⟩
    | envelope =>
      obtain ⟨uri, hmem, heq⟩ := List.any_eq_true.mp hadmits
      exact ⟨some uri, beq_iff_eq.mp heq, Tier.ofNamespace?_of_mem_envelope hmem⟩
    | model =>
      obtain ⟨uri, hmem, heq⟩ := List.any_eq_true.mp hadmits
      exact ⟨some uri, beq_iff_eq.mp heq, Tier.ofNamespace?_of_mem_model hmem⟩
    | anyNamespace => exact absurd rfl htier
  · rintro ⟨uri?, rfl, hsame⟩
    revert hsame
    fun_cases Tier.ofNamespace? uri? with
    | case1 =>
      rintro rfl
      exact beq_self_eq_true name
    | case2 uri hmem | case3 uri _ hmem =>
      rintro rfl
      exact List.any_eq_true.mpr ⟨uri, List.contains_iff_mem.mp hmem, beq_self_eq_true _⟩
    | case4 =>
      rintro rfl
      exact absurd rfl htier

/-- **The tier of a tag is that of its namespace.** -/
theorem tierOf_tagIn (h : IsPlain name) (uri? : Option String) :
    tierOf (tagIn uri? name) = Tier.ofNamespace? uri? := by
  have hadmits : ∀ tier, tier ≠ .anyNamespace →
      tier.admits name (tagIn uri? name) = decide (Tier.ofNamespace? uri? = tier) := by
    intro tier htier
    rw [Bool.eq_iff_iff, Tier.admits_iff_tagIn htier, decide_eq_true_eq]
    constructor
    · rintro ⟨other, heq, hother⟩
      rw [tagIn_inj heq, hother]
    · intro heq
      exact ⟨uri?, rfl, heq⟩
  have hbare := hadmits .bare nofun
  have henvelope := hadmits .envelope nofun
  have hmodel := hadmits .model nofun
  rw [tierOf, h.localName_tagIn, Tier.all]
  simp only [List.find?_cons, hbare, henvelope, hmodel]
  cases Tier.ofNamespace? uri? with
  | bare | envelope | model => rfl
  | anyNamespace =>
    cases Tier.admits name (tagIn uri? name) .anyNamespace <;> rfl

/-- **A tag fits a name when that is its local name,** in the tier of the tag and in the last one. -/
theorem Tier.admits_iff (h : IsPlain name) {tier : Tier} :
    tier.admits name tag = true ↔
      localName tag = name ∧ (tier = .anyNamespace ∨ tierOf tag = tier) := by
  by_cases htier : tier = .anyNamespace
  · rw [htier, Tier.admits, beq_iff_eq]
    exact ⟨fun heq => ⟨heq, .inl rfl⟩, And.left⟩
  · constructor
    · intro hadmits
      obtain ⟨uri?, rfl, heq⟩ := (Tier.admits_iff_tagIn htier).mp hadmits
      exact ⟨h.localName_tagIn uri?, .inr ((tierOf_tagIn h uri?).trans heq)⟩
    · rintro ⟨rfl, hlast | heq⟩
      · exact absurd hlast htier
      · rw [tierOf] at heq
        cases hfound : Tier.all.find? (·.admits (localName tag) tag) with
        | none =>
          rw [hfound] at heq
          exact absurd heq.symm htier
        | some found =>
          have hadmits := List.find?_some hfound
          rw [hfound, Option.getD_some] at heq
          rw [heq] at hadmits
          exact hadmits

/-! ## Lookups -/

variable {α : Type} {tagOf : α → String} {candidates : List α}

/-- Without a candidate of a name no tier finds anything. -/
theorem narrow_eq_nil (h : IsPlain name) (hnone : ∀ c ∈ candidates, localName (tagOf c) ≠ name)
    (tiers : List Tier) : narrow tagOf name candidates tiers = [] := by
  induction tiers with
  | nil => rfl
  | cons tier tiers ih =>
    have hfound : candidates.filter (fun c => tier.admits name (tagOf c)) = [] :=
      List.filter_eq_nil_iff.mpr fun c hc hadmits =>
        hnone c hc ((Tier.admits_iff h).mp hadmits).1
    rw [narrow, hfound]
    exact ih

/-- When all candidates of a name are of one tier, that tier finds them, and no earlier one finds
any. -/
theorem narrow_eq_filter (h : IsPlain name) {only : Tier}
    (hsome : ∃ c ∈ candidates, localName (tagOf c) = name)
    (honly : ∀ c ∈ candidates, localName (tagOf c) = name → tierOf (tagOf c) = only)
    {tiers : List Tier} (htiers : only ∈ tiers) :
    narrow tagOf name candidates tiers =
      candidates.filter fun c => localName (tagOf c) == name := by
  induction tiers with
  | nil => cases htiers
  | cons tier tiers ih =>
    rw [narrow]
    by_cases hhit : tier = .anyNamespace ∨ tier = only
    · have hfound : candidates.filter (fun c => tier.admits name (tagOf c)) =
          candidates.filter fun c => localName (tagOf c) == name := by
        refine List.filter_congr fun c hc => ?_
        rw [Bool.eq_iff_iff, Tier.admits_iff h, beq_iff_eq]
        constructor
        · exact And.left
        · intro hname
          refine ⟨hname, hhit.imp_right fun heq => ?_⟩
          rw [honly c hc hname, heq]
      obtain ⟨c, hc, hname⟩ := hsome
      have hmem : c ∈ candidates.filter fun c => localName (tagOf c) == name :=
        List.mem_filter.mpr ⟨hc, beq_iff_eq.mpr hname⟩
      simp only [hfound]
      rw [if_neg]
      exact fun hempty => List.ne_nil_of_mem hmem (List.isEmpty_iff.mp hempty)
    · have hfound : candidates.filter (fun c => tier.admits name (tagOf c)) = [] := by
        refine List.filter_eq_nil_iff.mpr fun c hc hadmits => hhit ?_
        obtain ⟨hname, hlast | htier⟩ := (Tier.admits_iff h).mp hadmits
        · exact .inl hlast
        · exact .inr (htier.symm.trans (honly c hc hname))
      rw [hfound]
      refine ih ?_
      obtain rfl | hmem := List.mem_cons.mp htiers
      · exact absurd (.inr rfl) hhit
      · exact hmem

/-- **Among candidates of which all with a name are of one tier, a lookup compares local names.** -/
theorem lookup_eq_filter (h : IsPlain name) (hne : name ≠ "")
    (huniform : ∀ a ∈ candidates, ∀ b ∈ candidates, localName (tagOf a) = name →
      localName (tagOf b) = name → tierOf (tagOf a) = tierOf (tagOf b)) :
    lookup tagOf name candidates = candidates.filter fun c => localName (tagOf c) == name := by
  have hempty : ¬name.isEmpty = true := fun hempty => hne (String.isEmpty_iff.mp hempty)
  rw [lookup, if_neg hempty]
  by_cases hsome : ∃ c ∈ candidates, localName (tagOf c) = name
  · obtain ⟨a, ha, hname⟩ := hsome
    refine narrow_eq_filter h ⟨a, ha, hname⟩
      (fun c hc hcname => huniform c hc a ha hcname hname) ?_
    cases tierOf (tagOf a) <;> decide
  · have hnone : ∀ c ∈ candidates, localName (tagOf c) ≠ name :=
      fun c hc hname => hsome ⟨c, hc, hname⟩
    rw [narrow_eq_nil h hnone]
    exact (List.filter_eq_nil_iff.mpr fun c hc hname => hnone c hc (beq_iff_eq.mp hname)).symm

/-! ### Candidates that make no difference -/

theorem narrow_filter (h : IsPlain name) (tiers : List Tier) :
    narrow tagOf name (candidates.filter fun c => localName (tagOf c) == name) tiers =
      narrow tagOf name candidates tiers := by
  induction tiers with
  | nil => rfl
  | cons tier tiers ih =>
    have hfound : (candidates.filter fun c => localName (tagOf c) == name).filter
        (fun c => tier.admits name (tagOf c)) =
          candidates.filter fun c => tier.admits name (tagOf c) := by
      rw [List.filter_filter]
      refine List.filter_congr fun c _ => ?_
      rw [Bool.and_eq_left_iff_imp]
      exact fun hadmits => beq_iff_eq.mpr ((Tier.admits_iff h).mp hadmits).1
    rw [narrow, narrow, hfound, ih]

/-- A lookup sees no candidates but those of the name. -/
theorem lookup_filter (h : IsPlain name) :
    lookup tagOf name (candidates.filter fun c => localName (tagOf c) == name) =
      lookup tagOf name candidates := by
  rw [lookup, narrow_filter h, lookup]

variable {others : List α}

/-- Lookups among candidates that go together, tag by tag, find what goes together. -/
theorem forall₂_lookup {R : α → α → Prop} (htag : ∀ {a b}, R a b → tagOf a = tagOf b)
    (h : List.Forall₂ R candidates others) :
    List.Forall₂ R (lookup tagOf name candidates) (lookup tagOf name others) := by
  have hnarrow (tiers : List Tier) :
      List.Forall₂ R (narrow tagOf name candidates tiers) (narrow tagOf name others tiers) := by
    induction tiers with
    | nil => exact .nil
    | cons tier tiers ih =>
      have hfound : List.Forall₂ R (candidates.filter fun c => tier.admits name (tagOf c))
          (others.filter fun c => tier.admits name (tagOf c)) :=
        List.rel_filter (fun _ _ hR => by simp only [htag hR]) h
      rw [narrow, narrow]
      generalize candidates.filter (fun c => tier.admits name (tagOf c)) = found,
        others.filter (fun c => tier.admits name (tagOf c)) = found' at hfound ⊢
      cases hfound with
      | nil => exact ih
      | cons hfirst hrest => exact .cons hfirst hrest
  unfold lookup
  split
  · exact .nil
  · exact hnarrow Tier.all

/-- Among candidates in another order a lookup finds the same ones in another order. -/
theorem perm_lookup (h : candidates.Perm others) :
    (lookup tagOf name candidates).Perm (lookup tagOf name others) := by
  have hnarrow (tiers : List Tier) :
      (narrow tagOf name candidates tiers).Perm (narrow tagOf name others tiers) := by
    induction tiers with
    | nil => exact .nil
    | cons tier tiers ih =>
      have hfound := h.filter fun c => tier.admits name (tagOf c)
      simp only [narrow, hfound.isEmpty_eq]
      split
      · exact ih
      · exact hfound
  unfold lookup
  split
  · exact .nil
  · exact hnarrow Tier.all

/-! ### What is found -/

/-- A lookup leaves candidates out, and what it finds stays in order. -/
theorem lookup_sublist (tagOf : α → String) (name : String) (candidates : List α) :
    (lookup tagOf name candidates).Sublist candidates := by
  rw [lookup]
  split
  · exact List.nil_sublist candidates
  · fun_induction narrow tagOf name candidates Tier.all with
    | case1 => exact List.nil_sublist candidates
    | case2 _ _ _ _ ih => exact ih
    | case3 => exact List.filter_sublist

/-- What a lookup finds is among the candidates. -/
theorem mem_of_mem_lookup {a : α} (h : a ∈ lookup tagOf name candidates) : a ∈ candidates :=
  (lookup_sublist tagOf name candidates).subset h

/-- A lookup sees nothing of a candidate but its tag. -/
theorem lookup_map {β : Type} (f : β → α) (candidates : List β) :
    lookup tagOf name (candidates.map f) =
      (lookup (fun b => tagOf (f b)) name candidates).map f := by
  have hnarrow (tiers : List Tier) : narrow tagOf name (candidates.map f) tiers =
      (narrow (fun b => tagOf (f b)) name candidates tiers).map f := by
    induction tiers with
    | nil => rfl
    | cons tier tiers ih =>
      rw [narrow, narrow, List.filter_map, List.isEmpty_map, ih]
      exact (apply_ite (List.map f) _ _ _).symm
  unfold lookup
  split
  · rfl
  · exact hnarrow Tier.all

/-- What a lookup finds has the name. -/
theorem localName_of_mem_lookup (h : IsPlain name) {a : α} (hmem : a ∈ lookup tagOf name candidates) :
    localName (tagOf a) = name := by
  rw [← lookup_filter h] at hmem
  exact eq_of_beq (List.mem_filter.mp (mem_of_mem_lookup hmem)).2

/-- Tiers find nothing where none of them admits a candidate. -/
theorem narrow_eq_nil_iff {tiers : List Tier} :
    narrow tagOf name candidates tiers = [] ↔
      ∀ tier ∈ tiers, ∀ c ∈ candidates, ¬tier.admits name (tagOf c) = true := by
  induction tiers with
  | nil => exact ⟨nofun, fun _ => rfl⟩
  | cons tier tiers ih =>
    rw [narrow, List.forall_mem_cons, ← ih, ← List.filter_eq_nil_iff]
    by_cases hfound : candidates.filter (fun c => tier.admits name (tagOf c)) = []
    · simp only [hfound, List.isEmpty_nil, if_true, true_and]
    · simp only [List.isEmpty_iff, hfound, if_false, false_and]

/-- **A lookup finds nothing exactly where no candidate has the local name.** The last tier leaves
out no namespace, so an earlier one that finds nothing hides nothing. -/
theorem lookup_eq_nil_iff (h : IsPlain name) (hne : name ≠ "") :
    lookup tagOf name candidates = [] ↔ ∀ c ∈ candidates, localName (tagOf c) ≠ name := by
  have hempty : ¬name.isEmpty = true := fun hempty => hne (String.isEmpty_iff.mp hempty)
  rw [lookup, if_neg hempty]
  constructor
  · intro hnil c hc hname
    have hlast := narrow_eq_nil_iff.mp hnil .anyNamespace (by decide) c hc
    exact hlast (beq_iff_eq.mpr hname)
  · intro hnone
    exact narrow_eq_nil h hnone Tier.all

/-! ### Places -/

/-- The places of a name are those of the elements that are found. -/
theorem map_element_placesNamed (name : String) (container : Place) :
    (placesNamed name container).map (·.element) = findAll name container.element := by
  rw [findAll, ← Place.map_element_descendants, lookup_map, placesNamed]

theorem map_element_childPlacesNamed (name : String) (container : Place) :
    (childPlacesNamed name container).map (·.element) = childrenNamed name container.element := by
  have hchildren := Place.map_element_siblings container.element.children (container.index + 1)
  rw [childrenNamed, ← hchildren, List.filter_map]
  rfl

theorem placesNamed_subset (name : String) (container : Place) :
    placesNamed name container ⊆ container.descendants :=
  (lookup_sublist _ name container.descendants).subset

theorem childPlacesNamed_subset (name : String) (container : Place) :
    childPlacesNamed name container ⊆ container.descendants :=
  List.Subset.trans List.filter_sublist.subset container.children_subset

/-- The places of a name come in document order. -/
theorem inOrder_placesNamed (name : String) (container : Place) :
    Place.InOrder (placesNamed name container) :=
  List.Pairwise.sublist (lookup_sublist _ name container.descendants) container.inOrder_descendants

theorem inOrder_childPlacesNamed (name : String) (container : Place) :
    Place.InOrder (childPlacesNamed name container) :=
  List.Pairwise.sublist List.filter_sublist container.inOrder_children

end ODataExplorer.Csdl
