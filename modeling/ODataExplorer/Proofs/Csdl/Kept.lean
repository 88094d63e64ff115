import Mathlib.Data.List.Forall2
import Mathlib.Data.List.Nodup
import ODataExplorer.Csdl.Document

/-!
What is kept when a document repeats itself.

Properties, keys, navigations and types are kept by the same rule: of the items that can be used,
the first of each name. `firstOfEach` is the rule, and each pass over a document is shown to be it
(`keepProperties_eq`, `filterMap_judgeKeys`, `filterMap_judgeNavigations`, `filterMap_placeTypes`).
What is said of the rule then holds of all four: the names are distinct, nothing is made up, no name
is lost, and the item of a name is the first one declared.
-/

namespace ODataExplorer.Csdl

open Xml Text

/-! ## The first of each name -/

section FirstOfEach

variable {α : Type} (name : α → String)

/-- The first item of each name that is not taken. -/
def firstOfEach (taken : List String) : List α → List α
  | [] => []
  | item :: rest =>
    if taken.contains (name item) then firstOfEach taken rest
    else item :: firstOfEach (name item :: taken) rest

/-- Only which names are taken counts, not how they are listed. -/
theorem firstOfEach_congr {taken taken' : List String} (h : ∀ n, n ∈ taken ↔ n ∈ taken') :
    ∀ items : List α, firstOfEach name taken items = firstOfEach name taken' items
  | [] => rfl
  | item :: rest => by
    have hcontains : taken.contains (name item) = taken'.contains (name item) := by
      rw [Bool.eq_iff_iff, List.contains_iff_mem, List.contains_iff_mem]
      exact h (name item)
    have hcons : ∀ n, n ∈ name item :: taken ↔ n ∈ name item :: taken' := fun n => by
      rw [List.mem_cons, List.mem_cons, h n]
    rw [firstOfEach, firstOfEach, hcontains, firstOfEach_congr h rest, firstOfEach_congr hcons rest]

/-- A name that joins the taken ones may stand at their end. -/
theorem firstOfEach_concat (taken : List String) (n : String) (items : List α) :
    firstOfEach name (taken ++ [n]) items = firstOfEach name (n :: taken) items :=
  firstOfEach_congr name
    (fun m => by rw [List.mem_append, List.mem_singleton, List.mem_cons, or_comm]) items

theorem firstOfEach_sublist :
    ∀ (taken : List String) (items : List α), (firstOfEach name taken items).Sublist items
  | _, [] => .slnil
  | taken, item :: rest => by
    rw [firstOfEach]
    split
    · exact (firstOfEach_sublist taken rest).cons item
    · exact (firstOfEach_sublist (name item :: taken) rest).cons_cons item

/-- No item has a name that was taken before. -/
theorem not_mem_taken_of_mem_firstOfEach :
    ∀ {taken : List String} {items : List α} {item : α},
      item ∈ firstOfEach name taken items → name item ∉ taken
  | taken, first :: rest, item, h => by
    rw [firstOfEach] at h
    split at h
    · exact not_mem_taken_of_mem_firstOfEach h
    · next hfree =>
      rcases List.mem_cons.mp h with rfl | h
      · exact fun htaken => hfree (List.contains_iff_mem.mpr htaken)
      · exact fun htaken => not_mem_taken_of_mem_firstOfEach h (List.mem_cons_of_mem _ htaken)

/-- The names are pairwise distinct. -/
theorem nodup_firstOfEach :
    ∀ (taken : List String) (items : List α), ((firstOfEach name taken items).map name).Nodup
  | _, [] => List.nodup_nil
  | taken, item :: rest => by
    rw [firstOfEach]
    split
    · exact nodup_firstOfEach taken rest
    · refine List.nodup_cons.mpr ⟨fun hmem => ?_, nodup_firstOfEach (name item :: taken) rest⟩
      obtain ⟨other, hother, hname⟩ := List.mem_map.mp hmem
      exact not_mem_taken_of_mem_firstOfEach name hother (hname ▸ List.mem_cons_self)

/-- Items with distinct names are all kept. -/
theorem firstOfEach_eq_self :
    ∀ {taken : List String} {items : List α}, (items.map name).Nodup →
      (∀ item ∈ items, name item ∉ taken) → firstOfEach name taken items = items
  | _, [], _, _ => rfl
  | taken, first :: rest, hnodup, hfree => by
    rw [List.map_cons, List.nodup_cons] at hnodup
    have hfirst : ¬taken.contains (name first) = true := fun hmem =>
      hfree first List.mem_cons_self (List.contains_iff_mem.mp hmem)
    rw [firstOfEach, if_neg hfirst, firstOfEach_eq_self hnodup.2]
    intro item hitem htaken
    obtain heq | htaken := List.mem_cons.mp htaken
    · exact hnodup.1 (heq ▸ List.mem_map_of_mem hitem)
    · exact hfree item (List.mem_cons_of_mem _ hitem) htaken

/-- A kept item is the first of its name. -/
theorem find?_of_mem_firstOfEach :
    ∀ {taken : List String} {items : List α} {item : α},
      item ∈ firstOfEach name taken items → items.find? (name · == name item) = some item
  | taken, first :: rest, item, h => by
    rw [firstOfEach] at h
    split at h
    · next htaken =>
      have hne : ¬(name first == name item) = true := fun heq => by
        rw [eq_of_beq heq] at htaken
        exact not_mem_taken_of_mem_firstOfEach name h (List.contains_iff_mem.mp htaken)
      rw [List.find?_cons_of_neg (p := (name · == name item)) hne]
      exact find?_of_mem_firstOfEach h
    · obtain rfl | hlater := List.mem_cons.mp h
      · exact List.find?_cons_of_pos (beq_self_eq_true _)
      · have hne : ¬(name first == name item) = true := fun heq =>
          not_mem_taken_of_mem_firstOfEach name hlater (eq_of_beq heq ▸ List.mem_cons_self)
        rw [List.find?_cons_of_neg (p := (name · == name item)) hne]
        exact find?_of_mem_firstOfEach hlater

/-- The kept names are those that are not taken, each once and in the order of first appearance. -/
theorem map_firstOfEach :
    ∀ (taken : List String) (items : List α), (firstOfEach name taken items).map name =
      ((items.map name).filter (!taken.contains ·)).eraseDups
  | _, [] => rfl
  | taken, item :: rest => by
    rw [firstOfEach, List.map_cons, List.filter_cons]
    cases htaken : taken.contains (name item) with
    | true => exact map_firstOfEach taken rest
    | false =>
      rw [if_neg Bool.false_ne_true, Bool.not_false, if_pos rfl, List.map_cons, List.eraseDups_cons,
        map_firstOfEach (name item :: taken) rest, List.filter_filter]
      congr 3
      funext n
      rw [List.contains_cons, Bool.not_or]

/-- Of a name that is not taken, the first item is the kept one. -/
theorem find?_firstOfEach {n : String} :
    ∀ {taken : List String} (items : List α), n ∉ taken →
      (firstOfEach name taken items).find? (name · == n) = items.find? (name · == n)
  | _, [], _ => rfl
  | taken, item :: rest, hfree => by
    rw [firstOfEach, List.find?_cons]
    by_cases hn : name item = n
    · have htaken : taken.contains (name item) = false := by
        rw [hn, Bool.eq_false_iff, Ne, List.contains_iff_mem]
        exact hfree
      rw [htaken, if_neg Bool.false_ne_true, List.find?_cons, beq_iff_eq.mpr hn]
    · rw [beq_eq_false_iff_ne.mpr hn]
      split
      · exact find?_firstOfEach rest hfree
      · rw [List.find?_cons, beq_eq_false_iff_ne.mpr hn]
        refine find?_firstOfEach rest fun hmem => ?_
        obtain heq | htaken := List.mem_cons.mp hmem
        · exact hn heq.symm
        · exact hfree htaken

/-- The first of each name of what is made of items, each under the name of its item. -/
theorem firstOfEach_map {β : Type} {nameOf : β → String} (make : β → α)
    (hname : ∀ b, name (make b) = nameOf b) :
    ∀ (taken : List String) (items : List β),
      firstOfEach name taken (items.map make) = (firstOfEach nameOf taken items).map make
  | _, [] => rfl
  | taken, item :: rest => by
    rw [List.map_cons, firstOfEach, firstOfEach, hname, firstOfEach_map make hname taken rest,
      firstOfEach_map make hname _ rest]
    split <;> rfl

/-- Of lists whose items go together, name by name, those that go together are kept. -/
theorem forall₂_firstOfEach {β : Type} {name' : β → String} {R : α → β → Prop}
    (hname : ∀ a b, R a b → name a = name' b) (taken : List String) {items : List α}
    {items' : List β} (h : List.Forall₂ R items items') :
    List.Forall₂ R (firstOfEach name taken items) (firstOfEach name' taken items') := by
  induction h generalizing taken with
  | nil => exact .nil
  | cons hfirst _ ih =>
    rw [firstOfEach, firstOfEach, hname _ _ hfirst]
    split
    · exact ih taken
    · exact .cons hfirst (ih _)

end FirstOfEach

/-- In a list with distinct names, a search by the name of an item finds the item. -/
theorem find?_name_of_mem {α : Type} {name : α → String} :
    ∀ {items : List α} {item : α}, (items.map name).Nodup → item ∈ items →
      items.find? (name · == name item) = some item
  | first :: rest, item, hnodup, hmem => by
    rw [List.map_cons, List.nodup_cons] at hnodup
    rcases List.mem_cons.mp hmem with rfl | hmem
    · exact List.find?_cons_of_pos (beq_self_eq_true _)
    · have hne : ¬(name first == name item) = true := fun heq =>
        hnodup.1 (eq_of_beq heq ▸ List.mem_map_of_mem hmem)
      rw [List.find?_cons_of_neg (p := (name · == name item)) hne]
      exact find?_name_of_mem hnodup.2 hmem

/-! ## The passes over a document -/

/-- Properties are kept by the rule, from those with a name. -/
theorem keepProperties_eq :
    ∀ (kept : List Property) (elements : List Element),
      keepProperties kept elements = kept ++ firstOfEach Property.name (kept.map (·.name))
        ((elements.map readProperty).filter (!·.name.isEmpty))
  | kept, [] => (List.append_nil kept).symm
  | kept, element :: rest => by
    have hany : kept.any (·.name == (readProperty element).name) =
        (kept.map (·.name)).contains (readProperty element).name := by
      rw [List.contains_eq_any_beq, List.any_map]
      exact List.any_congr rfl fun _ => Bool.beq_comm
    rw [keepProperties, List.map_cons, List.filter_cons, hany]
    cases hname : (readProperty element).name.isEmpty with
    | true => exact keepProperties_eq kept rest
    | false =>
      rw [Bool.false_or, Bool.not_false, if_pos rfl, firstOfEach]
      split
      · exact keepProperties_eq kept rest
      · rw [keepProperties_eq (kept ++ [readProperty element]) rest, List.append_assoc,
          List.map_append, List.map_singleton, firstOfEach_concat]
        rfl

/-- Keys are kept by the rule, from the references to declared properties. -/
theorem filterMap_judgeKeys (declared : List String) :
    ∀ (kept : List String) (elements : List Element),
      (judgeKeys declared kept elements).filterMap KeyReading.kept? =
        firstOfEach id kept ((elements.filterMap (·.get? "Name")).filter declared.contains)
  | _, [] => rfl
  | kept, element :: rest => by
    have ih := filterMap_judgeKeys declared kept rest
    rw [judgeKeys]
    cases hname : element.get? "Name" with
    | none =>
      rw [List.filterMap_cons_none hname]
      exact ih
    | some name =>
      rw [List.filterMap_cons_some hname, List.filter_cons]
      cases hdeclared : declared.contains name with
      | false =>
        simp only [hdeclared, Bool.not_false, if_true]
        exact ih
      | true =>
        simp only [hdeclared, Bool.not_true, Bool.false_eq_true, if_false, if_true]
        rw [firstOfEach]
        cases hkept : kept.contains name with
        | true =>
          simp only [id_eq, hkept, if_true]
          exact ih
        | false =>
          simp only [id_eq, hkept, Bool.false_eq_true, if_false]
          rw [← firstOfEach_concat, ← filterMap_judgeKeys declared (kept ++ [name]) rest]
          rfl

/-- The navigation of an element that has a name and a type. -/
def readNavigation? (associations? : Option Associations) (element : Element) : Option Navigation :=
  let name := element.getText "Name"
  if name.isEmpty then none
  else (navigationType? associations? element).map fun type => ⟨name, type, readConstraint? element⟩

/-- Navigations are kept by the rule, from those with a name and a type. -/
theorem filterMap_judgeNavigations (associations? : Option Associations) :
    ∀ (kept : List String) (elements : List Element),
      (judgeNavigations associations? kept elements).filterMap NavigationReading.kept? =
        firstOfEach Navigation.name kept (elements.filterMap (readNavigation? associations?))
  | _, [] => rfl
  | kept, element :: rest => by
    have ih := filterMap_judgeNavigations associations? kept rest
    rw [judgeNavigations]
    cases hname : (element.getText "Name").isEmpty with
    | true =>
      have hnone : readNavigation? associations? element = none := by
        rw [readNavigation?, hname, if_pos rfl]
      rw [List.filterMap_cons_none hnone]
      exact ih
    | false =>
      have hread : readNavigation? associations? element =
          (navigationType? associations? element).map fun type =>
            ⟨element.getText "Name", type, readConstraint? element⟩ := by
        rw [readNavigation?, hname, if_neg Bool.false_ne_true]
      simp only [Bool.false_eq_true, if_false]
      cases htype : navigationType? associations? element with
      | none =>
        rw [htype, Option.map_none] at hread
        rw [List.filterMap_cons_none hread]
        split
        · exact ih
        · exact ih
      | some type =>
        rw [htype, Option.map_some] at hread
        rw [List.filterMap_cons_some hread, firstOfEach]
        split
        · exact ih
        · rw [← firstOfEach_concat, ← filterMap_judgeNavigations associations? _ rest]
          rfl

/-- A verdict that keeps a navigation keeps what its element is read as. -/
theorem forall₂_judgeNavigations (associations? : Option Associations) :
    ∀ (kept : List String) (elements : List Element),
      List.Forall₂ (fun element verdict => ∀ navigation,
          verdict = NavigationReading.kept navigation →
            readNavigation? associations? element = some navigation)
        elements (judgeNavigations associations? kept elements)
  | _, [] => .nil
  | kept, element :: rest => by
    rw [judgeNavigations]
    cases hname : (element.getText "Name").isEmpty with
    | true =>
      rw [if_pos rfl]
      exact .cons nofun (forall₂_judgeNavigations associations? kept rest)
    | false =>
      rw [if_neg Bool.false_ne_true]
      split
      · exact .cons nofun (forall₂_judgeNavigations associations? kept rest)
      · split
        · exact .cons nofun (forall₂_judgeNavigations associations? kept rest)
        · next type htype =>
          refine .cons (fun navigation hkept => ?_) (forall₂_judgeNavigations associations? _ rest)
          cases hkept
          rw [readNavigation?, hname, if_neg Bool.false_ne_true, htype, Option.map_some]

/-- Types are kept by the rule. -/
theorem filterMap_placeTypes :
    ∀ (seen : List String) (types : List EntityType),
      (placeTypes seen types).filterMap Placement.kept? = firstOfEach EntityType.name seen types
  | _, [] => rfl
  | seen, type :: rest => by
    rw [placeTypes, firstOfEach]
    split
    · exact filterMap_placeTypes seen rest
    · rw [← filterMap_placeTypes (type.name :: seen) rest]
      rfl

/-- The types of the model are the first of each name. -/
theorem DocumentReading.keptTypes_eq (reading : DocumentReading) :
    reading.keptTypes = firstOfEach EntityType.name [] (reading.types.map (·.entityType)) := by
  rw [keptTypes, typePlacements, filterMap_placeTypes]

end ODataExplorer.Csdl
