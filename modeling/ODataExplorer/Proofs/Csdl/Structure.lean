import Mathlib.Data.Option.Defs
import ODataExplorer.Csdl.Document
import ODataExplorer.Proofs.Csdl.Lookup
import ODataExplorer.Proofs.Outcome
import ODataExplorer.Proofs.Xml.Tree

/-!
What a reading is made of.

Each stage of reading a document says what it found, and these lemmas say where it found it: the
envelope and its schemas in the tree, a type in a schema, a schema in the envelope. Proofs about
documents go through them and leave the stages closed.

What a document comes to is its model together with what the parser keeps of it (`outcome?`). It is
settled by the versions and the schemas that were read (`DocumentReading.outcome_congr`), and it is
the same for a tree and for the texts that are read as the tree (`outcomesRelated_of_rel`).
-/

namespace ODataExplorer.Csdl

open Xml

/-- Reading a tree fails where there is no envelope, and where the envelope has no schema. -/
theorem readTree_eq (root : Element) :
    readTree root =
      findEnvelope root >>= fun envelope =>
        if (findAll "Schema" envelope).isEmpty then .error .noSchema
        else .ok (.ofEnvelope envelope (findAll "Schema" envelope)) := by
  rw [readTree, findSchemas]
  cases findEnvelope root with
  | error reason => rfl
  | ok envelope =>
    simp only [bind, Except.bind, throw, throwThe, MonadExceptOf.throw, pure, Except.pure]
    cases (findAll "Schema" envelope).isEmpty <;> rfl

/-- The envelope of a tree is the root or below it. -/
theorem mem_subtree_of_findEnvelope {root envelope : Element}
    (h : findEnvelope root = .ok envelope) : envelope ∈ root.subtree := by
  unfold findEnvelope at h
  split at h
  · cases h
    exact Element.mem_subtree_self root
  · split at h
    · next hfirst =>
      cases h
      exact Element.mem_subtree_of_mem_descendants (mem_of_mem_lookup (List.mem_of_mem_head? hfirst))
    · cases h

/-- What a lookup finds below an element of a tree is an element of the tree. -/
theorem mem_subtree_of_mem_findAll {name : String} {root element below : Element}
    (h : element ∈ root.subtree) (hbelow : below ∈ findAll name element) : below ∈ root.subtree :=
  Element.subtree_subset h (Element.mem_subtree_of_mem_descendants (mem_of_mem_lookup hbelow))

/-- A tree that is read has an envelope with at least one schema. -/
theorem readTree_eq_ok {root : Element} {reading : DocumentReading}
    (h : readTree root = .ok reading) :
    ∃ envelope, findEnvelope root = .ok envelope ∧ findAll "Schema" envelope ≠ [] ∧
      reading = .ofEnvelope envelope (findAll "Schema" envelope) := by
  rw [readTree_eq] at h
  obtain ⟨envelope, henvelope, hread⟩ := bind_eq_ok.mp h
  split at hread
  · cases hread
  · next hne =>
    have hschemas := fun hnil => hne (List.isEmpty_iff.mpr hnil)
    exact ⟨envelope, henvelope, hschemas, (Except.ok.inj hread).symm⟩

/-- A text has a model when its tree is read. -/
theorem parse_eq_ok {content? : Option String} {model : Model} (h : parse content? = .ok model) :
    ∃ root reading, readContent content? = .ok root ∧ readTree root = .ok reading ∧
      model = reading.model := by
  obtain ⟨reading, hread, heq⟩ := bind_eq_ok.mp h
  obtain ⟨root, hroot, htree⟩ := bind_eq_ok.mp hread
  exact ⟨root, reading, hroot, htree, (Except.ok.inj heq).symm⟩

/-- The named types of a schema are those of its type elements that have a name. -/
theorem SchemaReading.mem_namedTypes_ofElement {associations? : Option Associations}
    {schema : Element} {type : TypeReading} :
    type ∈ (SchemaReading.ofElement associations? schema).namedTypes ↔
      ∃ element ∈ findAll "EntityType" schema,
        TypeReading.ofElement? associations? (schema.getText "Namespace") element = some type := by
  simp only [SchemaReading.namedTypes, SchemaReading.ofElement, List.filterMap_map,
    List.mem_filterMap, Function.comp_def, id_eq]

namespace DocumentReading

theorem schemas_ofEnvelope (envelope : Element) (schemas : List Element) :
    (ofEnvelope envelope schemas).schemas =
      schemas.map (SchemaReading.ofElement (ofEnvelope envelope schemas).associations?) := by
  simp only [ofEnvelope]

theorem versions_ofEnvelope (envelope : Element) (schemas : List Element) :
    (ofEnvelope envelope schemas).versions = Versions.ofRoot envelope := by
  rw [ofEnvelope]

theorem versions_model (reading : DocumentReading) : reading.model.versions = reading.versions := by
  rw [model]

/-- Associations are read in a document of the older dialect, from all of its schemas. -/
theorem associations?_ofEnvelope_eq_some_iff {envelope : Element} {schemas : List Element}
    {associations : Associations} :
    (ofEnvelope envelope schemas).associations? = some associations ↔
      isModernVersion (ofEnvelope envelope schemas).versions.protocol = false ∧
        associations = Associations.ofSchemas schemas := by
  rw [versions_ofEnvelope, ofEnvelope]
  dsimp only
  split
  · next hmodern => simp [hmodern]
  · next holder => simp [holder, eq_comm]

/-- The types of an envelope are those of its schemas. -/
theorem mem_types_ofEnvelope {envelope : Element} {schemas : List Element} {type : TypeReading} :
    type ∈ (ofEnvelope envelope schemas).types ↔
      ∃ schema ∈ schemas,
        type ∈ (SchemaReading.ofElement (ofEnvelope envelope schemas).associations?
          schema).namedTypes := by
  rw [types, schemas_ofEnvelope, List.flatMap_map, List.mem_flatMap]

end DocumentReading

/-! ## Outcomes -/

/-- What parsing a tree comes to: its model, and what the parser keeps of it. -/
def outcome? (root : Element) : Option (Model × Session) :=
  match readTree root with
  | .ok reading => some (reading.model, ⟨reading.associations?, reading.droppedCount⟩)
  | .error _ => none

/-- A text that is read as a tree is parsed as the tree. -/
theorem readDocument_eq {content? : Option String} {root : Element}
    (h : readContent content? = .ok root) : readDocument content? = readTree root := by
  simp only [readDocument, h, bind, Except.bind]

/-- A text has the model of its tree. -/
theorem parse_of_readTree {content? : Option String} {root : Element} {reading : DocumentReading}
    (hroot : readContent content? = .ok root) (htree : readTree root = .ok reading) :
    parse content? = .ok reading.model := by
  simp only [parse, readDocument_eq hroot, htree, bind, Except.bind, pure, Except.pure]

/-- Parsing a text is parsing its tree; without a model the parser keeps what it had. -/
theorem parse_eq_outcome? {content? : Option String} {root : Element} (session : Session)
    (h : readContent content? = .ok root) :
    ((session.parse content?).1.toOption, (session.parse content?).2) =
      match outcome? root with
      | some (model, kept) => (some model, kept)
      | none => (none, session) := by
  unfold Session.parse outcome?
  rw [readDocument_eq h]
  cases readTree root with
  | ok reading => rfl
  | error reason => rfl

/-- What a reading comes to. -/
def DocumentReading.outcome (reading : DocumentReading) : Model × Session :=
  (reading.model, ⟨reading.associations?, reading.droppedCount⟩)

theorem outcome?_eq (root : Element) :
    outcome? root =
      (findSchemas root).toOption.map fun found =>
        (DocumentReading.ofEnvelope found.1 found.2).outcome := by
  unfold outcome? readTree
  cases findSchemas root <;> rfl

theorem toOption_findSchemas (root : Element) :
    (findSchemas root).toOption =
      (findEnvelope root).toOption.bind fun envelope =>
        if (findAll "Schema" envelope).isEmpty then none
        else some (envelope, findAll "Schema" envelope) := by
  unfold findSchemas
  cases findEnvelope root with
  | error reason => rfl
  | ok envelope =>
    simp only [bind, Except.bind, throw, throwThe, MonadExceptOf.throw, pure, Except.pure,
      Except.toOption, Option.bind_some]
    cases (findAll "Schema" envelope).isEmpty <;> rfl

theorem readTree_of_findSchemas {root : Element} {found : Element × List Element}
    (h : (findSchemas root).toOption = some found) :
    readTree root = .ok (.ofEnvelope found.1 found.2) := by
  unfold readTree
  cases hread : findSchemas root with
  | error reason =>
    rw [hread] at h
    cases h
  | ok read =>
    rw [hread] at h
    cases h
    rfl

theorem mem_subtree_of_mem_findSchemas {root schema : Element} {found : Element × List Element}
    (h : (findSchemas root).toOption = some found) (hschema : schema ∈ found.2) :
    schema ∈ root.subtree := by
  rw [toOption_findSchemas] at h
  obtain ⟨envelope, henvelope, hfound⟩ := Option.bind_eq_some_iff.mp h
  split at hfound
  · cases hfound
  · cases hfound
    cases hread : findEnvelope root with
    | error reason =>
      rw [hread] at henvelope
      cases henvelope
    | ok read =>
      rw [hread] at henvelope
      cases henvelope
      have hbelow : schema ∈ findAll "Schema" envelope := hschema
      exact mem_subtree_of_mem_findAll (mem_subtree_of_findEnvelope hread) hbelow

/-- The elements that a reading was taken from do not show in what it comes to. -/
theorem DocumentReading.outcome_congr {reading other : DocumentReading}
    (hversions : reading.versions = other.versions)
    (hassociations : reading.associations? = other.associations?)
    (hschemas : reading.schemas = other.schemas) : reading.outcome = other.outcome := by
  cases reading
  cases other
  cases hversions
  cases hassociations
  cases hschemas
  rfl

/-! ### Outcomes of two trees -/

/-- Two parses from one session: they both fail and leave it as it was, or they both give a model.
The models and the sessions that they leave then stand in a relation. -/
inductive ParsesRelated (P : Model × Session → Model × Session → Prop) (session : Session) :
    Except StructuralError Model × Session → Except StructuralError Model × Session → Prop
  | failed (reason reason' : StructuralError) :
    ParsesRelated P session (.error reason, session) (.error reason', session)
  | parsed {model model' : Model} {kept kept' : Session}
    (related : P (model, kept) (model', kept')) :
    ParsesRelated P session (.ok model, kept) (.ok model', kept')

/-- Two trees have outcomes that stand in a relation, or none of them has one; and so have any two
texts that are read as the trees, for a parser in any session. -/
def OutcomesRelated (P : Model × Session → Model × Session → Prop) (root other : Element) : Prop :=
  Option.Rel P (outcome? root) (outcome? other) ∧
    ∀ content? content?' : Option String, readContent content? = .ok root →
      readContent content?' = .ok other → ∀ session : Session,
        ParsesRelated P session (session.parse content?) (session.parse content?')

/-- What holds of two trees holds of the texts that are read as them. -/
theorem outcomesRelated_of_rel {P : Model × Session → Model × Session → Prop}
    {root other : Element} (h : Option.Rel P (outcome? root) (outcome? other)) :
    OutcomesRelated P root other := by
  refine ⟨h, fun content? content?' hroot hother session => ?_⟩
  unfold Session.parse
  rw [readDocument_eq hroot, readDocument_eq hother]
  unfold outcome? at h
  cases hread : readTree root with
  | ok reading =>
    cases hread' : readTree other with
    | ok reading' =>
      rw [hread, hread'] at h
      cases h with
      | some hP => exact .parsed hP
    | error reason' =>
      rw [hread, hread'] at h
      cases h
  | error reason =>
    cases hread' : readTree other with
    | ok reading' =>
      rw [hread, hread'] at h
      cases h
    | error reason' => exact .failed reason reason'

theorem outcomesRelated_of_eq {root other : Element} (h : outcome? root = outcome? other) :
    OutcomesRelated Eq root other := by
  refine outcomesRelated_of_rel ?_
  rw [h]
  cases outcome? other with
  | none => exact .none
  | some _ => exact .some rfl

end ODataExplorer.Csdl
