import Mathlib.Data.List.Induction
import ODataExplorer.Proofs.Csdl.Integrity
import ODataExplorer.Proofs.Query.Options
import ODataExplorer.Proofs.Text.Split

/-!
The lists of names in a selection.

A list is read from left to right: a name is taken if it says something and has not occurred before
(`distinctNames_concat`). What is taken of a whole list follows by induction on its end: which names
they are, that they keep the order of their first occurrences (`listsOnce_distinctNames`), and that
names may be put in that say nothing new (`Padded.distinctNames_eq`).

Main statement: the options carry the lists in that form, and a selection is left out exactly if it
is empty or has the declared names, however these are listed; for a type of a document this is when
all of its properties are selected (`Selection.lists_sent`).
-/

namespace ODataExplorer.Query

open Text

/-! ## Names that are taken -/

/-- The names of a list that are not empty, each once, in the order in which they first occur. -/
structure ListsOnce (given names : List String) : Prop where
  mem_iff : ∀ name, name ∈ names ↔ name ∈ given ∧ name ≠ ""
  ordered : names.Pairwise (given.idxOf · < given.idxOf ·)

/-- A list with names put in that say nothing new: empty ones, and ones that stand before. -/
inductive Padded (given : List String) : List String → Prop
  | refl : Padded given given
  | insert {before after : List String} {name : String} (padded : Padded given (before ++ after))
      (idle : name = "" ∨ name ∈ before) : Padded given (before ++ name :: after)

variable {given names : List String} {name : String}

theorem unique_concat (names : List String) (name : String) :
    unique (names ++ [name]) =
      if (unique names).contains name then unique names else unique names ++ [name] :=
  List.foldl_concat _ _ _ _

theorem mem_unique : name ∈ unique names ↔ name ∈ names := by
  induction names using List.reverseRecOn with
  | nil => rfl
  | append_singleton names last ih =>
    rw [unique_concat, List.mem_append, List.mem_singleton]
    split
    · next hlast =>
      rw [ih, iff_self_or]
      rintro rfl
      exact ih.mp (List.contains_iff_mem.mp hlast)
    · rw [List.mem_append, List.mem_singleton, ih]

theorem mem_distinctNames : name ∈ distinctNames given ↔ name ∈ given ∧ name ≠ "" := by
  simp [distinctNames, mem_unique]

/-- **The last name of a list** is taken if it says something and has not occurred before. -/
theorem distinctNames_concat (given : List String) (name : String) :
    distinctNames (given ++ [name]) =
      if name = "" ∨ name ∈ given then distinctNames given else distinctNames given ++ [name] := by
  by_cases hempty : name = ""
  · subst hempty
    simp [distinctNames]
  · have hlast : (given ++ [name]).filter (!·.isEmpty) = given.filter (!·.isEmpty) ++ [name] := by
      simp [hempty]
    have hseen : (distinctNames given).contains name = true ↔ name = "" ∨ name ∈ given := by
      simp [mem_distinctNames, hempty]
    rw [distinctNames, hlast, unique_concat]
    exact if_congr hseen rfl rfl

/-- **The names that are taken are those of the list that say something,** in the order in which
they first occur. -/
theorem listsOnce_distinctNames (given : List String) : ListsOnce given (distinctNames given) where
  mem_iff _ := mem_distinctNames
  ordered := by
    induction given using List.reverseRecOn with
    | nil => exact .nil
    | append_singleton given last ih =>
      -- a longer list leaves the place where a name first occurs as it is
      have hplace : ∀ {name}, name ∈ distinctNames given →
          (given ++ [last]).idxOf name = given.idxOf name := fun hname =>
        List.idxOf_append_of_mem (mem_distinctNames.mp hname).1
      have hordered : (distinctNames given).Pairwise
          ((given ++ [last]).idxOf · < (given ++ [last]).idxOf ·) :=
        ih.imp_of_mem fun hfirst hsecond hlt => by rwa [hplace hfirst, hplace hsecond]
      rw [distinctNames_concat]
      split
      · exact hordered
      · next hnew =>
        refine List.pairwise_append.mpr ⟨hordered, List.pairwise_singleton _ _, ?_⟩
        rintro name hname _ hlast
        obtain rfl := List.mem_singleton.mp hlast
        have hbefore := List.idxOf_lt_length_of_mem (mem_distinctNames.mp hname).1
        rw [hplace hname, List.idxOf_append_of_notMem fun hmem => hnew (.inr hmem)]
        omega

/-- A name that says nothing new is not missed. -/
theorem distinctNames_insert {before : List String} (h : name = "" ∨ name ∈ before)
    (after : List String) :
    distinctNames (before ++ name :: after) = distinctNames (before ++ after) := by
  induction after using List.reverseRecOn with
  | nil => rw [distinctNames_concat, if_pos h, List.append_nil]
  | append_singleton after last ih =>
    have hseen : last = "" ∨ last ∈ before ++ name :: after ↔
        last = "" ∨ last ∈ before ++ after := by
      simp only [List.mem_append, List.mem_cons]
      constructor
      · rintro (hempty | hbefore | rfl | hafter)
        · exact .inl hempty
        · exact .inr (.inl hbefore)
        · exact h.imp_right .inl
        · exact .inr (.inr hafter)
      · rintro (hempty | hbefore | hafter)
        · exact .inl hempty
        · exact .inr (.inl hbefore)
        · exact .inr (.inr (.inr hafter))
    rw [← List.cons_append, ← List.append_assoc, ← List.append_assoc, distinctNames_concat,
      distinctNames_concat, ih]
    exact if_congr hseen rfl rfl

theorem Padded.distinctNames_eq (h : Padded given names) :
    distinctNames names = distinctNames given := by
  induction h with
  | refl => rfl
  | insert _ hidle ih => rw [distinctNames_insert hidle, ih]

/-! ## Names that are sent -/

/-- Names that say something join to a text that says something. -/
theorem joined_distinctNames_ne_empty (h : distinctNames given ≠ []) :
    joined "," (distinctNames given) ≠ "" := by
  obtain ⟨name, hname⟩ := List.exists_mem_of_ne_nil _ h
  have htext : name.toList ≠ [] := fun hnil =>
    (mem_distinctNames.mp hname).2 (String.toList_eq_nil_iff.mp hnil)
  intro hempty
  exact joinWith_ne_nil (List.mem_map_of_mem hname) htext (String.ofList_eq_empty_iff.mp hempty)

theorem nonempty?_joined_eq_some_iff {value : String} :
    nonempty? (joined "," (distinctNames given)) = some value ↔
      distinctNames given ≠ [] ∧ value = joined "," (distinctNames given) := by
  rw [nonempty?_eq_some_iff]
  constructor
  · rintro ⟨rfl, hvalue⟩
    exact ⟨fun hnil => hvalue (by rw [hnil]; rfl), rfl⟩
  · rintro ⟨hne, rfl⟩
    exact ⟨rfl, joined_distinctNames_ne_empty hne⟩

/-- Names without commas come back from the text that joins them. -/
theorem pieces_joined (hne : names ≠ []) (h : ∀ name ∈ names, ',' ∉ name.toList) :
    (pieces ',' (joined "," names).toList).map String.ofList = names := by
  have hparts : ∀ part ∈ names.map String.toList, ',' ∉ part := by
    simpa only [List.forall_mem_map] using h
  have hpieces : pieces ',' (joined "," names).toList = names.map String.toList := by
    rw [joined, String.toList_ofList]
    exact pieces_joinWith (fun hnil => hne (List.map_eq_nil_iff.mp hnil)) hparts
  rw [hpieces, List.map_map]
  exact List.map_id'' (fun name => String.ofList_toList) names

/-! ## Selections that are left out -/

theorem sameNames_iff {left right : List String} :
    sameNames left right = true ↔ ∀ name, name ∈ right ↔ name ∈ left := by
  simp only [sameNames, Bool.and_eq_true, List.all_eq_true, List.contains_iff_mem]
  constructor
  · rintro ⟨hleft, hright⟩ name
    exact ⟨hright name, hleft name⟩
  · intro hsame
    exact ⟨fun name => (hsame name).mpr, fun name => (hsame name).mp⟩

/-- Nothing is selected, or just the names that are declared. -/
def SelectsAll (declared? : Option (List String)) (selected : List String) : Prop :=
  selected = [] ∨ ∃ declared, declared? = some declared ∧ ∀ name, name ∈ declared ↔ name ∈ selected

/-- The same names are declared, or none both times. -/
def SameDeclared : Option (List String) → Option (List String) → Prop :=
  Option.Rel fun declared declared' => ∀ name, name ∈ declared ↔ name ∈ declared'

namespace Selection

variable {selection : Selection} {version? : Option String} {declared? : Option (List String)}

theorem selectedNames_eq_nil_iff :
    selection.selectedNames declared? = [] ↔
      SelectsAll declared? (distinctNames selection.select) := by
  have hfull : declared?.any (sameNames (distinctNames selection.select)) = true ↔
      ∃ declared, declared? = some declared ∧
        ∀ name, name ∈ declared ↔ name ∈ distinctNames selection.select := by
    rw [Option.any_eq_true]
    simp only [sameNames_iff]
  rw [SelectsAll, ← hfull, selectedNames]
  split
  · next hall => exact iff_of_true rfl (.inr hall)
  · next hpart => exact (or_iff_left hpart).symm

/-- Which names are selected depends on the names that are declared, and not on how. -/
theorem selectedNames_congr {select : List String} {declared'? : Option (List String)}
    (hselect : distinctNames select = distinctNames selection.select)
    (hdeclared : SameDeclared declared? declared'?) :
    ({ selection with select } : Selection).selectedNames declared'? =
      selection.selectedNames declared? := by
  have hsame : declared'?.any (sameNames (distinctNames selection.select)) =
      declared?.any (sameNames (distinctNames selection.select)) := by
    cases hdeclared with
    | none => rfl
    | some hnames =>
      rw [Option.any_some, Option.any_some, Bool.eq_iff_iff, sameNames_iff, sameNames_iff]
      simp only [hnames]
  rw [selectedNames, selectedNames, hselect, hsame]

/-- Only the names that are taken show in the options. -/
theorem options_congr {select expand : List String} {declared'? : Option (List String)}
    (hselect : distinctNames select = distinctNames selection.select)
    (hexpand : distinctNames expand = distinctNames selection.expand)
    (hdeclared : SameDeclared declared? declared'?) :
    ({ selection with select, expand } : Selection).options version? declared'? =
      selection.options version? declared? := by
  have hnames : ({ selection with select, expand } : Selection).selectedNames declared'? =
      selection.selectedNames declared? := selectedNames_congr hselect hdeclared
  simp only [options, hnames, hexpand]

theorem mem_options_select_iff {value : String} :
    ("$select", value) ∈ selection.options version? declared? ↔
      ¬SelectsAll declared? (distinctNames selection.select) ∧
        value = joined "," (distinctNames selection.select) := by
  rw [mem_options_iff_of_ne_count (by decide) (by decide), ← selectedNames_eq_nil_iff]
  have hplace : ("$select", some value) ∈ selection.fixedClauses declared? ↔
      nonempty? (joined "," (selection.selectedNames declared?)) = some value := by
    simp [fixedClauses, eq_comm]
  rw [hplace, selectedNames]
  split
  · have hnone : nonempty? (joined "," []) = none := rfl
    simp [hnone]
  · exact nonempty?_joined_eq_some_iff

theorem mem_options_expand_iff {value : String} :
    ("$expand", value) ∈ selection.options version? declared? ↔
      distinctNames selection.expand ≠ [] ∧
        value = joined "," (distinctNames selection.expand) := by
  rw [mem_options_iff_of_ne_count (by decide) (by decide), ← nonempty?_joined_eq_some_iff]
  simp [fixedClauses, eq_comm]

/-! ## Properties of a type -/

variable {content? : Option String} {model : Csdl.Model} {type : Csdl.EntityType}

/-- Who selects all properties of a type selects all that is declared. -/
theorem selectsAll_propertyNames (hparse : Csdl.parse content? = .ok model)
    (hmem : type ∈ model.types)
    (hsame : ∀ name, name ∈ selection.select ↔ name ∈ type.propertyNames) :
    SelectsAll (some type.propertyNames) (distinctNames selection.select) := by
  refine .inr ⟨_, rfl, fun name => ?_⟩
  rw [mem_distinctNames, hsame, iff_self_and]
  exact Csdl.ne_empty_of_mem_propertyNames hparse hmem

/-- Who selects some properties of a type, and leaves one out, does not. -/
theorem not_selectsAll_propertyNames (hparse : Csdl.parse content? = .ok model)
    (hmem : type ∈ model.types) (hne : selection.select ≠ [])
    (hsubset : ∀ name ∈ selection.select, name ∈ type.propertyNames)
    (hproper : ∃ name ∈ type.propertyNames, name ∉ selection.select) :
    ¬SelectsAll (some type.propertyNames) (distinctNames selection.select) := by
  rintro (hnil | ⟨declared, hdeclared, hsame⟩)
  · obtain ⟨name, hname⟩ := List.exists_mem_of_ne_nil _ hne
    have htaken : name ∈ distinctNames selection.select := mem_distinctNames.mpr
      ⟨hname, Csdl.ne_empty_of_mem_propertyNames hparse hmem (hsubset name hname)⟩
    rw [hnil] at htaken
    cases htaken
  · cases hdeclared
    obtain ⟨name, hname, hleft⟩ := hproper
    exact hleft (mem_distinctNames.mp ((hsame name).mp hname)).1

/-- **Lists are sent in order and each name once, and only a full selection is left out.** The
options carry the names of the lists that say something, and they come back if no comma is in them;
there is no selection exactly if it is empty or has the names that are declared. So nothing changes
with names put in that say nothing new, or with the order of the declared names. All properties of a
type of a document are a full selection, and some but not all of them never are. -/
theorem lists_sent (selection : Selection) (version? : Option String)
    (declared? : Option (List String)) :
    ListsOnce selection.select (distinctNames selection.select) ∧
      ListsOnce selection.expand (distinctNames selection.expand) ∧
      (∀ value, ("$select", value) ∈ selection.options version? declared? ↔
        ¬SelectsAll declared? (distinctNames selection.select) ∧
          value = joined "," (distinctNames selection.select)) ∧
      (∀ value, ("$expand", value) ∈ selection.options version? declared? ↔
        distinctNames selection.expand ≠ [] ∧
          value = joined "," (distinctNames selection.expand)) ∧
      (∀ given ∈ [selection.select, selection.expand], distinctNames given ≠ [] →
        (∀ name ∈ given, ',' ∉ name.toList) →
        (pieces ',' (joined "," (distinctNames given)).toList).map String.ofList =
          distinctNames given) ∧
      (∀ select expand declared'?, Padded selection.select select →
        Padded selection.expand expand → SameDeclared declared? declared'? →
        ({ selection with select, expand } : Selection).options version? declared'? =
          selection.options version? declared?) ∧
      ∀ content? model, Csdl.parse content? = .ok model → ∀ type ∈ model.types,
        ((∀ name, name ∈ selection.select ↔ name ∈ type.propertyNames) →
          ∀ value, ("$select", value) ∉ selection.options version? (some type.propertyNames)) ∧
        (selection.select ≠ [] → (∀ name ∈ selection.select, name ∈ type.propertyNames) →
          (∃ name ∈ type.propertyNames, name ∉ selection.select) →
          ("$select", joined "," (distinctNames selection.select)) ∈
            selection.options version? (some type.propertyNames)) := by
  refine ⟨listsOnce_distinctNames _, listsOnce_distinctNames _, fun _ => mem_options_select_iff,
    fun _ => mem_options_expand_iff, ?_, ?_, ?_⟩
  · intro given _ hne hcommas
    exact pieces_joined hne fun name hname => hcommas name (mem_distinctNames.mp hname).1
  · intro select expand declared'? hselect hexpand hdeclared
    exact options_congr hselect.distinctNames_eq hexpand.distinctNames_eq hdeclared
  · intro content? model hparse type hmem
    constructor
    · intro hsame value hvalue
      exact (mem_options_select_iff.mp hvalue).1 (selectsAll_propertyNames hparse hmem hsame)
    · intro hne hsubset hproper
      exact mem_options_select_iff.mpr
        ⟨not_selectsAll_propertyNames hparse hmem hne hsubset hproper, rfl⟩

/-- A type with a property that is declared twice and one without a name. -/
def repeatedProperty : String :=
  "<Edmx><Schema Namespace='A'><EntityType Name='T'><Property Name='A'/><Property/>" ++
    "<Property Name='B'/><Property Name='A'/></EntityType></Schema></Edmx>"

/-- A selection of two properties, one of which occurs twice. -/
def turnedSelection : Selection := { set := "S", select := ["B", "A", "B"], expand := ["X"] }

/-- A selection of one property. -/
def narrowSelection : Selection := { set := "S", select := ["B", "B"] }

theorem lists_sent_repeatedProperty :
    (pieces ',' (joined "," (distinctNames turnedSelection.select)).toList).map String.ofList =
        ["B", "A"] ∧
      ({ turnedSelection with select := ["B", "", "A", "B", "A"] } : Selection).options none
          (some ["C", "B", "C"]) = turnedSelection.options none (some ["B", "C"]) ∧
      ∃ model, Csdl.parse (some repeatedProperty) = .ok model ∧ ∃ type ∈ model.types,
        type.propertyNames = ["A", "B"] ∧
        (∀ value, ("$select", value) ∉ turnedSelection.options none (some type.propertyNames)) ∧
        ("$select", "B") ∈ narrowSelection.options none (some type.propertyNames) := by
  have hturned : ∀ name, name ∈ turnedSelection.select ↔ name ∈ ["A", "B"] := by
    intro name
    simp only [turnedSelection, List.mem_cons, List.not_mem_nil, or_false]
    tauto
  obtain ⟨-, -, -, -, hpieces, hpadded, hfull⟩ := lists_sent turnedSelection none (some ["B", "C"])
  obtain ⟨-, -, -, -, -, -, hpart⟩ := lists_sent narrowSelection none none
  refine ⟨hpieces _ List.mem_cons_self (by decide) (by decide), ?_, ?_⟩
  · have honce : Padded turnedSelection.select (["B"] ++ "" :: ["A", "B"]) :=
      .insert .refl (.inl rfl)
    have hselect : Padded turnedSelection.select (["B", "", "A", "B"] ++ "A" :: []) :=
      .insert honce (.inr (by decide))
    have hdeclared : SameDeclared (some ["B", "C"]) (some ["C", "B", "C"]) := by
      refine .some fun name => ?_
      simp only [List.mem_cons, List.not_mem_nil, or_false]
      tauto
    exact hpadded _ _ _ hselect .refl hdeclared
  · have hread : (Csdl.parse (some repeatedProperty)).toOption.map
        (·.types.map (·.propertyNames)) = some [["A", "B"]] := by
      decide +kernel
    cases hparse : Csdl.parse (some repeatedProperty) with
    | error reason =>
      rw [hparse] at hread
      cases hread
    | ok model =>
      rw [hparse] at hread
      obtain ⟨type, htypes, hnames⟩ := List.map_eq_singleton_iff.mp (Option.some.inj hread)
      have hmem : type ∈ model.types := htypes ▸ List.mem_singleton_self type
      have hall : ∀ name, name ∈ turnedSelection.select ↔ name ∈ type.propertyNames := by
        rw [hnames]
        exact hturned
      have hnarrow : ∀ name ∈ narrowSelection.select, name ∈ type.propertyNames := by
        rw [hnames]
        decide
      have hleft : "A" ∈ type.propertyNames ∧ "A" ∉ narrowSelection.select := by
        rw [hnames]
        decide
      exact ⟨model, rfl, type, hmem, hnames, (hfull _ model hparse type hmem).1 hall,
        (hpart _ model hparse type hmem).2 (List.cons_ne_nil _ _) hnarrow ⟨"A", hleft⟩⟩

end Selection

end ODataExplorer.Query
