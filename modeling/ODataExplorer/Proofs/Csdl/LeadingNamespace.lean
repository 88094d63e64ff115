import Mathlib.Logic.Function.Basic
import ODataExplorer.Proofs.Csdl.Declared

/-!
Which namespace a document is about.

A model is named after the namespace that contributes the most types. Two loops find it. The first
one reads the schemas and adds the types of each to the count of its namespace, so that a namespace
with several schemas is counted together, and before types of one name are told apart (`tally`). The
second one goes through the namespaces as they stand in the document and lets a name lead from where
its count is greater than that of the leader; it meets a namespace as often as there are schemas of
it, and starts from a leader with nothing (`leadingNamespace`).

The invariant of the second loop is that the leader is the earliest maximum of the names gone
through (`Leads`). It holds from the first name on, since a first name without types leads as well
as one with some. Main statement: the namespace of a model is the first entry of its namespaces that
no other entry exceeds, by the type elements that have a name (`namespace_leads`).
-/

namespace ODataExplorer.Csdl

open Xml Text

/-! ## The earliest maximum -/

section EarliestMaximum

variable {count : String → Nat} {names : List String} {leader name : String}

/-- The first of the names that no other one exceeds. -/
def earliestMaximum? (count : String → Nat) (names : List String) : Option String :=
  names.find? fun name => names.all (count · ≤ count name)

/-- A name leads: it exceeds all names before it, and none after it exceeds it. -/
inductive Leads (count : String → Nat) (leader : String) : List String → Prop
  | among {before after : List String} (exceeds : ∀ name ∈ before, count name < count leader)
    (unexceeded : ∀ name ∈ after, count name ≤ count leader) :
    Leads count leader (before ++ leader :: after)

theorem Leads.le (h : Leads count leader names) : ∀ name ∈ names, count name ≤ count leader := by
  obtain ⟨exceeds, unexceeded⟩ := h
  intro name hname
  rcases List.mem_append.mp hname with hbefore | hafter
  · exact Nat.le_of_lt (exceeds name hbefore)
  · rcases List.mem_cons.mp hafter with rfl | hafter
    · exact Nat.le_refl _
    · exact unexceeded name hafter

/-- A name alone leads. -/
theorem Leads.singleton (count : String → Nat) (name : String) : Leads count name [name] :=
  @Leads.among count name [] [] nofun nofun

/-- The name that leads is the earliest maximum. -/
theorem Leads.earliestMaximum?_eq (h : Leads count leader names) :
    earliestMaximum? count names = some leader := by
  have hle := h.le
  obtain ⟨exceeds, -⟩ := h
  refine List.find?_eq_some_iff_append.mpr ⟨?_, _, _, rfl, fun name hname => ?_⟩
  · exact List.all_eq_true.mpr fun other hother => decide_eq_true (hle other hother)
  · rw [Bool.not_eq_true', List.all_eq_false]
    refine ⟨leader, List.mem_append_right _ List.mem_cons_self, ?_⟩
    rw [decide_eq_true_eq, Nat.not_le]
    exact exceeds name hname

/-- The step: after one more name, the leader stays or the name takes its place. -/
theorem Leads.concat (h : Leads count leader names) (name : String) :
    Leads count (if count name > count leader then name else leader) (names ++ [name]) := by
  have hle := h.le
  split
  · next hgreater =>
    exact .among (fun other hother => Nat.lt_of_le_of_lt (hle other hother) hgreater) nofun
  · next hnot =>
    obtain ⟨exceeds, unexceeded⟩ := h
    rw [List.append_assoc, List.cons_append]
    refine .among exceeds fun other hother => ?_
    rcases List.mem_append.mp hother with hafter | hlast
    · exact unexceeded other hafter
    · rw [List.mem_singleton.mp hlast]
      exact Nat.le_of_not_gt hnot

/-- The loop: by induction on the names to come, with the names gone through at the front. -/
theorem Leads.leadingNamespace :
    ∀ {leader : String} {names : List String}, Leads count leader names → ∀ rest : List String,
      Leads count (Csdl.leadingNamespace count (leader, count leader) rest) (names ++ rest)
  | _, names, h, [] => by
    rw [List.append_nil]
    exact h
  | leader, names, h, name :: rest => by
    have hstep := h.concat name
    rw [List.append_cons, Csdl.leadingNamespace]
    dsimp only
    split at hstep
    · next hgreater =>
      rw [if_pos hgreater]
      exact hstep.leadingNamespace rest
    · next hnot =>
      rw [if_neg hnot]
      exact hstep.leadingNamespace rest

/-- From a leader with nothing, the loop ends with the earliest maximum. The first name is the
leader from the start, whether it exceeds nothing or not. -/
theorem leads_leadingNamespace (count : String → Nat) (h : names ≠ []) :
    Leads count (leadingNamespace count (names.headD "", 0) names) names := by
  obtain ⟨first, rest, rfl⟩ := List.exists_cons_of_ne_nil h
  have hfirst : leadingNamespace count ((first :: rest).headD "", 0) (first :: rest) =
      leadingNamespace count (first, count first) rest := by
    rw [leadingNamespace, List.headD_cons]
    dsimp only
    split
    · rfl
    · next hnone => rw [Nat.eq_zero_of_not_pos hnone]
  rw [hfirst]
  exact (Leads.singleton count first).leadingNamespace rest

/-- Where nothing is counted, the first name leads. -/
theorem Leads.head?_eq (h : Leads count leader names) (hnone : ∀ name, count name = 0) :
    names.head? = some leader := by
  obtain @⟨before, after, exceeds, -⟩ := h
  cases before with
  | nil => rfl
  | cons first rest =>
    have hfirst := exceeds first List.mem_cons_self
    rw [hnone leader] at hfirst
    exact absurd hfirst (Nat.not_lt_zero _)

end EarliestMaximum

/-! ## Counting types -/

/-- How many types there are of each namespace. -/
abbrev Tally := String → Nat

/-- Adds the types of a schema to the count of its namespace. -/
def Tally.add (counts : Tally) (schema : SchemaReading) : Tally :=
  Function.update counts schema.namespaceName
    (counts schema.namespaceName + schema.namedTypes.length)

/-- The counts when all schemas are read, one after another. -/
def tally (schemas : List SchemaReading) : Tally := schemas.foldl Tally.add fun _ => 0

theorem typeCount_cons (schema : SchemaReading) (rest : List SchemaReading) (name : String) :
    typeCount (schema :: rest) name =
      (if schema.namespaceName = name then schema.namedTypes.length else 0) +
        typeCount rest name := by
  rw [typeCount, List.filter_cons]
  by_cases hname : schema.namespaceName = name
  · rw [if_pos (beq_iff_eq.mpr hname), if_pos hname]
    rfl
  · rw [if_neg fun heq => hname (beq_iff_eq.mp heq), if_neg hname, Nat.zero_add]
    rfl

/-- The step: only the count of the namespace of the schema grows. -/
theorem Tally.add_apply (counts : Tally) (schema : SchemaReading) (name : String) :
    counts.add schema name =
      counts name + if schema.namespaceName = name then schema.namedTypes.length else 0 := by
  by_cases hname : schema.namespaceName = name
  · rw [Tally.add, if_pos hname, hname, Function.update_self]
  · rw [Tally.add, if_neg hname, Function.update_of_ne (Ne.symm hname), Nat.add_zero]

/-- The loop: by induction on the schemas to come, for the counts gathered so far. -/
theorem foldl_add_apply (name : String) :
    ∀ (counts : Tally) (schemas : List SchemaReading),
      schemas.foldl Tally.add counts name = counts name + typeCount schemas name
  | _, [] => rfl
  | counts, schema :: rest => by
    rw [List.foldl_cons, foldl_add_apply name (counts.add schema) rest, Tally.add_apply,
      typeCount_cons, Nat.add_assoc]

/-- What is gathered on the way is what all schemas of a namespace hold together. -/
theorem tally_eq_typeCount (schemas : List SchemaReading) : tally schemas = typeCount schemas := by
  funext name
  rw [tally, foldl_add_apply, Nat.zero_add]

/-- How many type elements with a name stand in the schemas of a namespace. -/
def declaredCount (schemas : List Element) (name : String) : Nat :=
  ((schemas.filter (·.getText "Namespace" == name)).flatMap namedTypeElements).length

/-- Every type element with a name is counted, whether its type is kept or not. -/
theorem typeCount_ofElement (associations? : Option Associations) (schemas : List Element) :
    typeCount (schemas.map (SchemaReading.ofElement associations?)) = declaredCount schemas := by
  funext name
  have hlength : ∀ schema, (SchemaReading.ofElement associations? schema).namedTypes.length =
      (namedTypeElements schema).length := fun schema =>
    (forall₂_namedTypes associations? schema).length_eq.symm
  rw [typeCount, declaredCount, List.filter_map, List.map_map, List.length_flatMap]
  exact congrArg List.sum (List.map_congr_left fun schema _ => hlength schema)

/-! ## Documents -/

/-- The name of a model leads its namespaces, by the types that were read. -/
theorem DocumentReading.leads_model {reading : DocumentReading}
    (h : reading.model.namespaces ≠ []) :
    Leads (typeCount reading.schemas) reading.model.namespaceName reading.model.namespaces :=
  leads_leadingNamespace (typeCount reading.schemas) h

/-- **A model is named after the earliest of the namespaces with the most types.** The counts that
are gathered while the schemas of a document are read are those of the type elements with a name in
all schemas of a namespace, and the namespace of the model is the first of its namespaces whose
count none of them exceeds. Where no schema has a type element with a name, it is the first of
all. -/
theorem namespace_leads {content? : Option String} {model : Model}
    (h : parse content? = .ok model) :
    ∃ root envelope reading, readContent content? = .ok root ∧ findEnvelope root = .ok envelope ∧
      readTree root = .ok reading ∧ reading.model = model ∧
      tally reading.schemas = declaredCount (findAll "Schema" envelope) ∧
      model.namespaces = (findAll "Schema" envelope).map (·.getText "Namespace") ∧
      earliestMaximum? (declaredCount (findAll "Schema" envelope)) model.namespaces =
        some model.namespaceName ∧
      ((∀ schema ∈ findAll "Schema" envelope, namedTypeElements schema = []) →
        model.namespaces.head? = some model.namespaceName) := by
  obtain ⟨root, reading, hroot, htree, rfl⟩ := parse_eq_ok h
  obtain ⟨envelope, henvelope, hschemas, rfl⟩ := readTree_eq_ok htree
  have hnames := (abridges_ofEnvelope envelope (findAll "Schema" envelope)).namespaces_eq
  have hcounts :
      typeCount (DocumentReading.ofEnvelope envelope (findAll "Schema" envelope)).schemas =
        declaredCount (findAll "Schema" envelope) := by
    rw [DocumentReading.schemas_ofEnvelope, typeCount_ofElement]
  have hleads := DocumentReading.leads_model fun hnil =>
    hschemas (List.map_eq_nil_iff.mp (hnames.symm.trans hnil))
  rw [hcounts] at hleads
  refine ⟨root, envelope, _, hroot, henvelope, htree, rfl, ?_, hnames, hleads.earliestMaximum?_eq,
    fun hnone => hleads.head?_eq fun name => ?_⟩
  · rw [tally_eq_typeCount, hcounts]
  · rw [declaredCount, List.length_eq_zero_iff, List.flatMap_eq_nil_iff]
    exact fun schema hschema => hnone schema (List.mem_of_mem_filter hschema)

/-- A document with two schemas of its first namespace, which together have as many types as each of
the two others. Between them the second namespace leads, with two types of one name. -/
def tiedNamespaces : String :=
  "<Edmx><Schema Namespace='A'><EntityType Name='S'/><EntityType/></Schema>" ++
    "<Schema Namespace='B'><EntityType Name='T'/><EntityType Name='T'/></Schema>" ++
    "<Schema Namespace='A'><EntityType Name='U'/></Schema>" ++
    "<Schema><EntityType Name='V'/><EntityType Name='W'/></Schema></Edmx>"

theorem namespace_leads_tied :
    ∃ model envelope, parse (some tiedNamespaces) = .ok model ∧
      model.namespaces = ["A", "B", "A", ""] ∧
      model.namespaces.map (declaredCount (findAll "Schema" envelope)) = [2, 2, 2, 2] ∧
      earliestMaximum? (declaredCount (findAll "Schema" envelope)) model.namespaces =
        some model.namespaceName ∧
      model.namespaceName = "A" := by
  have hread : (readContent (some tiedNamespaces)).toOption.map (fun root =>
      ((readTree root).toOption.map fun reading =>
        (reading.model.namespaces, reading.model.namespaceName),
      (findEnvelope root).toOption.map fun envelope =>
        ["A", "B", "A", ""].map (declaredCount (findAll "Schema" envelope)))) =
      some (some (["A", "B", "A", ""], "A"), some [2, 2, 2, 2]) := by
    decide +kernel
  cases hroot : readContent (some tiedNamespaces) with
  | error reason =>
    rw [hroot] at hread
    cases hread
  | ok root =>
    rw [hroot] at hread
    obtain ⟨hmodel, hcounts⟩ := Prod.mk.inj (Option.some.inj hread)
    cases htree : readTree root with
    | error reason =>
      rw [htree] at hmodel
      cases hmodel
    | ok reading =>
      rw [htree] at hmodel
      obtain ⟨hnames, hname⟩ := Prod.mk.inj (Option.some.inj hmodel)
      have hparse := parse_of_readTree hroot htree
      obtain ⟨root', envelope, reading', hroot', henvelope, -, -, -, -, hearliest, -⟩ :=
        namespace_leads hparse
      cases hroot.symm.trans hroot'
      rw [henvelope] at hcounts
      refine ⟨reading.model, envelope, hparse, hnames, ?_, hearliest, hname⟩
      rw [hnames]
      exact Option.some.inj hcounts

end ODataExplorer.Csdl
