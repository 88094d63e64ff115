import ODataExplorer.Proofs.Query.Compile

/-!
The options of a selection.

There are seven places for options, in a fixed order, and each place has one name. What a selection
asks for decides which of them get a value (`Selection.clauses`), and the options are the places
that have one (`Selection.options_eq_filterMap`). So order, names and presence are read off one
table: the names are some of those of the places, and an option is there exactly if its place says
so.

Main statement: the options come in canonical order, no name twice and none without a value; each is
present exactly if its field asks for it, and the one that asks for a count is written in the
dialect of the version (`Selection.options_canonical`).
-/

namespace ODataExplorer.Query

open Text

/-! ## Clauses -/

/-- A place for an option: its name, and its value if it has one. -/
abbrev Clause := String × Option String

/-- The option in a place that has a value. -/
def Clause.option? (clause : Clause) : Option (String × String) :=
  clause.2.map fun value => (clause.1, value)

variable {places : List Clause} {name value : String}

/-- Options are found where their places have that value. -/
theorem mem_filterMap_option? :
    (name, value) ∈ places.filterMap Clause.option? ↔ (name, some value) ∈ places := by
  rw [List.mem_filterMap]
  constructor
  · rintro ⟨⟨_, value?⟩, hmem, hoption⟩
    obtain ⟨_, rfl, heq⟩ := Option.map_eq_some_iff.mp hoption
    cases heq
    exact hmem
  · intro hmem
    exact ⟨_, hmem, rfl⟩

/-- The names of options are those of their places, in the same order. -/
theorem map_fst_filterMap_option? (places : List Clause) :
    ((places.filterMap Clause.option?).map Prod.fst).Sublist (places.map Prod.fst) := by
  induction places with
  | nil => exact .slnil
  | cons place places ih =>
    obtain ⟨name, value?⟩ := place
    cases value? with
    | none => exact ih.cons name
    | some value => exact ih.cons_cons name

/-- A text that is not empty. -/
def nonempty? (value : String) : Option String :=
  if value.isEmpty then none else some value

theorem nonempty?_eq_some_iff {text : String} :
    nonempty? text = some value ↔ text = value ∧ value ≠ "" := by
  unfold nonempty?
  by_cases hempty : text.isEmpty = true
  · rw [if_pos hempty]
    rw [String.isEmpty_iff] at hempty
    simp only [hempty, reduceCtorEq, false_iff, not_and, not_not]
    exact Eq.symm
  · rw [if_neg hempty]
    rw [String.isEmpty_iff] at hempty
    simp only [Option.some.injEq, iff_self_and]
    rintro rfl
    exact hempty

theorem toList_option?_nonempty? (name value : String) :
    (Clause.option? (name, nonempty? value)).toList = textOption name value := by
  unfold nonempty? textOption
  split <;> rfl

theorem toList_option?_number (name : String) (number? : Option Int) :
    (Clause.option? (name, number?.map toString)).toList = numberOption name number? := by
  cases number? <;> rfl

/-! ## Versions -/

/-- The version of a service is known, and without the blanks around it begins with a four. -/
def SpeaksModern (version? : Option String) : Prop :=
  ∃ version, version? = some version ∧ ['4'] <+: (trim version).toList

theorem speaksModern_iff {version? : Option String} :
    SpeaksModern version? ↔ version?.any Csdl.isModernVersion = true := by
  simp only [SpeaksModern, Option.any_eq_true, Csdl.isModernVersion, List.isPrefixOf_iff_prefix,
    trim, String.toList_ofList]

instance (version? : Option String) : Decidable (SpeaksModern version?) :=
  decidable_of_iff _ speaksModern_iff.symm

theorem countOption_eq (version? : Option String) :
    countOption version? =
      if SpeaksModern version? then ("$count", "true") else ("$inlinecount", "allpages") := by
  simp only [countOption, speaksModern_iff]

namespace Selection

/-! ## Options -/

/-- What a selection is ordered by, with the direction behind it. -/
def orderValue? (selection : Selection) : Option String :=
  (selection.orderBy?.bind nonempty?).map fun order => order ++ " " ++ selection.direction.word

/-- The places for the options that are the same in every version, in canonical order. -/
def fixedClauses (declared? : Option (List String)) (selection : Selection) : List Clause := [
  ("$select", nonempty? (joined "," (selection.selectedNames declared?))),
  ("$expand", nonempty? (joined "," (distinctNames selection.expand))),
  ("$filter", nonempty? (selection.filter?.getD "")),
  ("$orderby", selection.orderValue?),
  ("$top", selection.top?.map toString),
  ("$skip", selection.skip?.map toString)]

/-- The place for the option that asks for a count. -/
def countClause (version? : Option String) (selection : Selection) : Clause :=
  ((countOption version?).1, if selection.count then some (countOption version?).2 else none)

/-- The places for options in canonical order, with the values that a selection gives them. -/
def clauses (version? : Option String) (declared? : Option (List String)) (selection : Selection) :
    List Clause :=
  selection.fixedClauses declared? ++ [selection.countClause version?]

variable (selection : Selection) (version? : Option String) (declared? : Option (List String))

variable {selection} in
theorem toList_option?_orderValue? {order : String} (h : selection.orderBy? = some order) :
    (Clause.option? ("$orderby", selection.orderValue?)).toList =
      if order.isEmpty then [] else [("$orderby", order ++ " " ++ selection.direction.word)] := by
  rw [orderValue?, h, Option.bind_some, nonempty?]
  split <;> rfl

variable {selection} in
theorem toList_option?_orderValue?_of_none (h : selection.orderBy? = none) :
    (Clause.option? ("$orderby", selection.orderValue?)).toList = [] := by
  rw [orderValue?, h]
  rfl

theorem toList_option?_countClause :
    (selection.countClause version?).option?.toList =
      if selection.count then [countOption version?] else [] := by
  unfold countClause
  split <;> rfl

/-- **The options are the places that have a value.** -/
theorem options_eq_filterMap :
    selection.options version? declared? =
      (selection.clauses version? declared?).filterMap Clause.option? := by
  rw [List.filterMap_eq_flatMap_toList]
  simp only [clauses, fixedClauses, List.cons_append, List.nil_append, List.flatMap_cons,
    List.flatMap_nil, List.append_nil, toList_option?_nonempty?, toList_option?_number,
    toList_option?_countClause, options, List.append_assoc]
  cases horder : selection.orderBy? with
  | none => simp only [toList_option?_orderValue?_of_none horder]
  | some order => simp only [toList_option?_orderValue? horder]

variable {selection version? declared?} {name value : String}

theorem mem_options_iff :
    (name, value) ∈ selection.options version? declared? ↔
      (name, some value) ∈ selection.clauses version? declared? := by
  rw [options_eq_filterMap, mem_filterMap_option?]

/-- An option with a name that asks for no count stands in one of the first places. -/
theorem mem_options_iff_of_ne_count (hcount : name ≠ "$count") (hinline : name ≠ "$inlinecount") :
    (name, value) ∈ selection.options version? declared? ↔
      (name, some value) ∈ selection.fixedClauses declared? := by
  rw [mem_options_iff, clauses, List.mem_append, or_iff_left_iff_imp]
  intro hmem
  have hname : name = (countOption version?).1 := congrArg Prod.fst (List.mem_singleton.mp hmem)
  rw [countOption_eq] at hname
  split at hname
  · exact absurd hname hcount
  · exact absurd hname hinline

/-- An option with a name that no other place has asks for a count. -/
theorem mem_options_iff_of_notMem
    (h : ∀ value?, (name, value?) ∉ selection.fixedClauses declared?) :
    (name, value) ∈ selection.options version? declared? ↔
      selection.count = true ∧ countOption version? = (name, value) := by
  rw [mem_options_iff, clauses, List.mem_append, or_iff_right (h _), List.mem_singleton,
    countClause]
  cases selection.count with
  | false => simp
  | true => simp [Prod.ext_iff, eq_comm]

theorem nonempty?_filter_eq_some_iff :
    nonempty? (selection.filter?.getD "") = some value ↔
      selection.filter? = some value ∧ value ≠ "" := by
  rw [nonempty?_eq_some_iff]
  cases selection.filter? with
  | none => simp [eq_comm]
  | some filter => simp

theorem orderValue?_eq_some_iff :
    selection.orderValue? = some value ↔
      ∃ order, selection.orderBy? = some order ∧ order ≠ "" ∧
        value = order ++ " " ++ selection.direction.word := by
  unfold orderValue?
  rw [Option.map_eq_some_iff]
  constructor
  · rintro ⟨order, horder, rfl⟩
    obtain ⟨given, hgiven, hvalue⟩ := Option.bind_eq_some_iff.mp horder
    obtain ⟨rfl, hne⟩ := nonempty?_eq_some_iff.mp hvalue
    exact ⟨given, hgiven, hne, rfl⟩
  · rintro ⟨order, horder, hne, rfl⟩
    rw [horder]
    exact ⟨order, nonempty?_eq_some_iff.mpr ⟨rfl, hne⟩, rfl⟩

/-- The names of the options are in canonical order. -/
theorem map_fst_options :
    ((selection.options version? declared?).map Prod.fst).Sublist
      ["$select", "$expand", "$filter", "$orderby", "$top", "$skip", (countOption version?).1] := by
  rw [options_eq_filterMap]
  exact map_fst_filterMap_option? _

/-- **The options of a selection are canonical.** Their names come in a fixed order, none of them
twice, and none is without a value. A filter and an order are sent as they are exactly if they are
not empty, the order with its direction behind it; a number is sent whenever it is given, in decimal
digits. A count is asked for in the words of the version, if at all. -/
theorem options_canonical (selection : Selection) (version? : Option String)
    (declared? : Option (List String)) :
    (∃ count ∈ ["$count", "$inlinecount"],
        ((selection.options version? declared?).map Prod.fst).Sublist
          ["$select", "$expand", "$filter", "$orderby", "$top", "$skip", count]) ∧
      ((selection.options version? declared?).map Prod.fst).Nodup ∧
      (∀ option ∈ selection.options version? declared?, option.2 ≠ "") ∧
      (∀ value, ("$filter", value) ∈ selection.options version? declared? ↔
        selection.filter? = some value ∧ value ≠ "") ∧
      (∀ value, ("$orderby", value) ∈ selection.options version? declared? ↔
        ∃ order, selection.orderBy? = some order ∧ order ≠ "" ∧
          value = order ++ " " ++ selection.direction.word) ∧
      (∀ value, ("$top", value) ∈ selection.options version? declared? ↔
        ∃ n : Int, selection.top? = some n ∧ toString n = value) ∧
      (∀ value, ("$skip", value) ∈ selection.options version? declared? ↔
        ∃ n : Int, selection.skip? = some n ∧ toString n = value) ∧
      (∀ value, ("$count", value) ∈ selection.options version? declared? ↔
        selection.count = true ∧ SpeaksModern version? ∧ value = "true") ∧
      (∀ value, ("$inlinecount", value) ∈ selection.options version? declared? ↔
        selection.count = true ∧ ¬SpeaksModern version? ∧ value = "allpages") := by
  have hname : (countOption version?).1 ∈ ["$count", "$inlinecount"] := by
    rw [countOption_eq]
    split <;> decide
  have hdistinct : ∀ count ∈ ["$count", "$inlinecount"],
      ["$select", "$expand", "$filter", "$orderby", "$top", "$skip", count].Nodup := by decide
  refine ⟨⟨_, hname, map_fst_options⟩, map_fst_options.nodup (hdistinct _ hname),
    fun option hoption => value_of_mem_options hoption, ?_, ?_, ?_, ?_, ?_, ?_⟩
  · intro value
    rw [mem_options_iff_of_ne_count (by decide) (by decide), ← nonempty?_filter_eq_some_iff]
    simp [fixedClauses, eq_comm]
  · intro value
    rw [mem_options_iff_of_ne_count (by decide) (by decide), ← orderValue?_eq_some_iff]
    simp [fixedClauses, eq_comm]
  · intro value
    rw [mem_options_iff_of_ne_count (by decide) (by decide), ← Option.map_eq_some_iff]
    simp [fixedClauses, eq_comm]
  · intro value
    rw [mem_options_iff_of_ne_count (by decide) (by decide), ← Option.map_eq_some_iff]
    simp [fixedClauses, eq_comm]
  · intro value
    rw [mem_options_iff_of_notMem (by simp [fixedClauses]), countOption_eq]
    by_cases hmodern : SpeaksModern version?
    · rw [if_pos hmodern, Prod.mk.injEq, eq_comm (b := value)]
      simp only [true_and, hmodern]
    · rw [if_neg hmodern]
      simp [hmodern]
  · intro value
    rw [mem_options_iff_of_notMem (by simp [fixedClauses]), countOption_eq]
    by_cases hmodern : SpeaksModern version?
    · rw [if_pos hmodern]
      simp [hmodern]
    · rw [if_neg hmodern, Prod.mk.injEq, eq_comm (b := value)]
      simp only [true_and, hmodern, not_false_eq_true]

/-- A number that is zero is sent, a filter that is empty is not. -/
example :
    ({ set := "Orders", filter? := some "", top? := some 0, count := true } : Selection).options
      (some " 4.01 ") none = [("$top", "0"), ("$count", "true")] := by
  decide

end Selection

end ODataExplorer.Query
