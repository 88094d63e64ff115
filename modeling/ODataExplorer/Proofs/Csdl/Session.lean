import Mathlib.Data.List.Chain
import ODataExplorer.Csdl.Document

/-!
A parser that is used again.

A parser has one session for all its documents and works on it while it reads. The tables of
associations are put there before the first type is read and are looked up there by every navigation
without a type of its own; a navigation that is dropped is counted there on the spot; and a pass
that fails leaves behind whatever it had done to the session. `Session.walk` reads in that way.

Nothing of one document reaches the next. Each pass leaves the tables alone, adds to the count what
it dropped, and gives what is read with those tables (`Walk.ReadsAs`), so walking comes to what is
read without any session (`walk_eq_parse`). Main statement: in a run over any documents each one comes
out as from a new parser, and one without a model leaves no trace (`turns_fresh`).
-/

namespace ODataExplorer.Csdl

open Xml

/-! ## Passes over a document -/

/-- A pass over a part of a document, which works on the session of the parser. -/
abbrev Walk := StateM Session

/-- A pass that may fail. What was done to the session before it failed stays done. -/
abbrev Attempt := ExceptT StructuralError Walk

namespace Session

/-- Counts dropped navigations. -/
def drop (count : Nat) (session : Session) : Session :=
  { session with dropped := session.dropped + count }

theorem drop_drop (session : Session) (first second : Nat) :
    (session.drop first).drop second = session.drop (first + second) := by
  simp only [drop, Nat.add_assoc]

end Session

namespace Walk

/-- Reads a navigation, given the names kept before. -/
def navigation (kept : List String) (element : Element) : Walk NavigationReading := do
  let name := element.getText "Name"
  if name.isEmpty then return .unnamed
  if kept.contains name then return .repeated name
  match navigationType? (← get).associations? element with
  | some type => return .kept ⟨name, type, readConstraint? element⟩
  | none =>
    modify (·.drop 1)
    return .unresolved name

/-- Reads the navigations of a type one by one. -/
def navigations (kept : List String) : List Element → Walk (List NavigationReading)
  | [] => return []
  | element :: rest => do
    let reading ← navigation kept element
    let readings ← navigations (kept ++ (reading.kept?.map (·.name)).toList) rest
    return reading :: readings

/-- Reads a type; one without a name is left out, with all its navigations. -/
def type? (namespaceName : String) (element : Element) : Walk (Option TypeReading) := do
  let name := element.getText "Name"
  if name.isEmpty then return none
  let properties := readProperties element
  let keys := readKeys (properties.map (·.name)) element
  let navigations ← navigations [] (childrenNamed "NavigationProperty" element)
  return some { name, namespaceName, properties, keys, navigations }

/-- Reads the types of a schema one by one, then its sets. -/
def schema (element : Element) : Walk SchemaReading := do
  let namespaceName := element.getText "Namespace"
  let types ← (findAll "EntityType" element).mapM (type? namespaceName)
  return { namespaceName, types, sets := SchemaReading.readSets element }

/-- Reads the schemas of an envelope. The session is made ready for them first: the tables are put
there, and the count starts anew. -/
def schemas (envelope : Element) (schemaElements : List Element) : Walk Model := do
  let versions := Versions.ofRoot envelope
  set {
    associations? :=
      if isModernVersion versions.protocol then none
      else some (Associations.ofSchemas schemaElements)
    dropped := 0 : Session }
  let schemas ← schemaElements.mapM schema
  return DocumentReading.model {
    versions, schemaElements, schemas
    associations? := (← get).associations? }

/-- Reads a document. The session is not touched before its schemas are found. -/
def document (content? : Option String) : Attempt Model := do
  let (envelope, schemaElements) ←
    (readContent content? >>= findSchemas : Except StructuralError (Element × List Element))
  schemas envelope schemaElements

end Walk

/-- Parses the next document in passes over it. -/
def Session.walk (content? : Option String) (session : Session) :
    Except StructuralError Model × Session :=
  (Walk.document content?).run.run session

/-! ## What a pass does to the session -/

section Passes

variable {α β : Type}

theorem run_pure (a : α) (session : Session) : (pure a : Walk α).run session = (a, session) := rfl

theorem run_bind (pass : Walk α) (next : α → Walk β) (session : Session) :
    (pass >>= next).run session = (next (pass.run session).1).run (pass.run session).2 := rfl

theorem total_append (first second : List Nat) :
    total (first ++ second) = total first + total second :=
  List.sum_append

/-- A sum over parts is that of the sums of the parts. -/
theorem total_flatMap (f : β → Nat) (parts : α → List β) :
    ∀ l : List α, total ((l.flatMap parts).map f) = total (l.map fun a => total ((parts a).map f))
  | [] => rfl
  | a :: rest => by
    rw [List.flatMap_cons, List.map_append, total_append, total_flatMap f parts rest]
    rfl

namespace Walk

/-- A pass gives what is read with the tables that it finds in the session. It leaves them there and
adds what it dropped to the count. -/
def ReadsAs (pass : Walk α) (read : Option Associations → α) (dropped : α → Nat) : Prop :=
  ∀ session : Session, pass.run session =
    (read session.associations?, session.drop (dropped (read session.associations?)))

/-- Passes one after another drop what they drop one by one. -/
theorem ReadsAs.mapM {pass : α → Walk β} {read : Option Associations → α → β} {dropped : β → Nat}
    (h : ∀ a, ReadsAs (pass a) (read · a) dropped) :
    ∀ l : List α, ReadsAs (l.mapM pass) (fun associations? => l.map (read associations?))
      fun readings => total (readings.map dropped)
  | [] => fun _ => rfl
  | a :: rest => fun session => by
    have hrest := ReadsAs.mapM h rest (session.drop (dropped (read session.associations? a)))
    rw [List.mapM_cons, run_bind, h a session, run_bind, hrest, run_pure, Session.drop_drop]
    rfl

end Walk

end Passes

namespace Walk

/-! ## Navigations -/

/-- The verdict on one navigation. -/
def judge (associations? : Option Associations) (kept : List String) (element : Element) :
    NavigationReading :=
  let name := element.getText "Name"
  if name.isEmpty then .unnamed
  else if kept.contains name then .repeated name
  else
    match navigationType? associations? element with
    | some type => .kept ⟨name, type, readConstraint? element⟩
    | none => .unresolved name

theorem judgeNavigations_cons (associations? : Option Associations) (kept : List String)
    (element : Element) (rest : List Element) :
    judgeNavigations associations? kept (element :: rest) =
      judge associations? kept element ::
        judgeNavigations associations?
          (kept ++ ((judge associations? kept element).kept?.map (·.name)).toList) rest := by
  have hfree : kept ++ (Option.map Navigation.name none).toList = kept := List.append_nil kept
  rw [judgeNavigations, judge]
  cases (element.getText "Name").isEmpty with
  | true => simp only [if_true, NavigationReading.kept?, hfree]
  | false =>
    cases kept.contains (element.getText "Name") with
    | true => simp only [Bool.false_eq_true, if_false, if_true, NavigationReading.kept?, hfree]
    | false =>
      cases navigationType? associations? element with
      | none => simp only [Bool.false_eq_true, if_false, NavigationReading.kept?, hfree]
      | some type => rfl

/-- The step: a navigation is judged by the tables in the session, and counted there if it is
dropped. -/
theorem readsAs_navigation (kept : List String) (element : Element) :
    ReadsAs (navigation kept element) (judge · kept element)
      fun reading => if reading.isDropped then 1 else 0 := by
  intro session
  have hget : (get : Walk Session).run session = (session, session) := rfl
  unfold navigation judge
  cases hname : (element.getText "Name").isEmpty with
  | true => simp only [hname, if_true, run_pure]; rfl
  | false =>
    cases hkept : kept.contains (element.getText "Name") with
    | true =>
      simp only [hname, hkept, Bool.false_eq_true, if_false, if_true, run_pure]
      rfl
    | false =>
      simp only [hname, hkept, Bool.false_eq_true, if_false, run_bind, hget]
      cases navigationType? session.associations? element <;> rfl

/-- The loop: by induction on the navigations, each judged by the tables that the ones before it
left alone. -/
theorem readsAs_navigations : ∀ (kept : List String) (elements : List Element),
    ReadsAs (navigations kept elements) (judgeNavigations · kept elements)
      (·.countP NavigationReading.isDropped)
  | _, [] => fun _ => rfl
  | kept, element :: rest => fun session => by
    have hstep := readsAs_navigation kept element session
    have hloop := readsAs_navigations
      (kept ++ ((judge session.associations? kept element).kept?.map (·.name)).toList) rest
      (session.drop (if (judge session.associations? kept element).isDropped then 1 else 0))
    simp only [navigations, run_bind, run_pure, hstep, hloop, judgeNavigations_cons,
      List.countP_cons, Session.drop_drop, Nat.add_comm]
    rfl

/-! ## Types and schemas -/

/-- A type element without a name has no navigations that count. -/
theorem readsAs_type? (namespaceName : String) (element : Element) :
    ReadsAs (type? namespaceName element) (TypeReading.ofElement? · namespaceName element)
      fun reading? => total (reading?.toList.map (·.droppedCount)) := by
  intro session
  unfold type? TypeReading.ofElement?
  cases hname : (element.getText "Name").isEmpty with
  | true => simp only [hname, if_true, run_pure]; rfl
  | false =>
    have hnavigations :=
      readsAs_navigations [] (childrenNamed "NavigationProperty" element) session
    simp only [hname, Bool.false_eq_true, if_false, run_bind, run_pure, hnavigations]
    rfl

theorem readsAs_schema (element : Element) :
    ReadsAs (schema element) (SchemaReading.ofElement · element)
      fun reading => total (reading.namedTypes.map (·.droppedCount)) := by
  intro session
  have htypes := ReadsAs.mapM (readsAs_type? (element.getText "Namespace"))
    (findAll "EntityType" element) session
  simp only [schema, run_bind, run_pure, htypes, SchemaReading.ofElement, SchemaReading.namedTypes]
  rw [← total_flatMap, ← List.filterMap_eq_flatMap_toList]
  rfl

end Walk

/-! ## Documents -/

namespace DocumentReading

theorem droppedCount_eq (reading : DocumentReading) :
    reading.droppedCount =
      total (reading.schemas.map fun schema => total (schema.namedTypes.map (·.droppedCount))) := by
  rw [droppedCount, types, total_flatMap]

end DocumentReading

/-- Walking through the schemas of an envelope leaves in the session what belongs to them. -/
theorem Walk.run_schemas (envelope : Element) (schemaElements : List Element) (session : Session) :
    (Walk.schemas envelope schemaElements).run session =
      ((DocumentReading.ofEnvelope envelope schemaElements).model,
        ⟨(DocumentReading.ofEnvelope envelope schemaElements).associations?,
          (DocumentReading.ofEnvelope envelope schemaElements).droppedCount⟩) := by
  have hset (ready : Session) : (set ready : Walk PUnit).run session = (⟨⟩, ready) := rfl
  have hget (now : Session) : (get : Walk Session).run now = (now, now) := rfl
  simp only [Walk.schemas, run_bind, run_pure, hset, hget,
    ReadsAs.mapM readsAs_schema schemaElements _, DocumentReading.droppedCount_eq]
  simp only [DocumentReading.ofEnvelope, Session.drop, Nat.zero_add]

/-- **Walking through a document comes to what is read without a session,** whatever the session was
before. -/
theorem Session.walk_eq_parse (content? : Option String) (session : Session) :
    session.walk content? = session.parse content? := by
  have hread : readDocument content? =
      (readContent content? >>= findSchemas).map fun found => .ofEnvelope found.1 found.2 := by
    unfold readDocument readTree
    cases readContent content? with
    | error reason => rfl
    | ok root =>
      simp only [bind, Except.bind]
      cases findSchemas root <;> rfl
  unfold Session.walk Session.parse Walk.document
  rw [hread]
  cases readContent content? >>= findSchemas with
  | error reason => rfl
  | ok found =>
    have hlift : (do
          let (envelope, schemaElements) ← (.ok found : Except StructuralError _)
          Walk.schemas envelope schemaElements : Attempt Model).run.run session =
        (.ok ((Walk.schemas found.1 found.2).run session).1,
          ((Walk.schemas found.1 found.2).run session).2) := rfl
    rw [hlift, Walk.run_schemas]
    rfl

/-! ## Runs -/

/-- A document that a parser was given: what came of it, and the session before and after. -/
structure Turn where
  content? : Option String
  before : Session
  outcome : Except StructuralError Model
  after : Session

/-- The turns of a parser that is given documents one after another. -/
def turns (session : Session) : List (Option String) → List Turn
  | [] => []
  | content? :: rest =>
    let (outcome, after) := session.walk content?
    ⟨content?, session, outcome, after⟩ :: turns after rest

/-- A turn like that of a new parser. -/
structure Turn.IsFresh (turn : Turn) : Prop where
  outcome_eq : turn.outcome = (Session.walk turn.content? {}).1
  /-- A document with a model leaves behind what it leaves in a new parser. -/
  after_of_ok : ∀ model, turn.outcome = .ok model →
    turn.after = (Session.walk turn.content? {}).2
  /-- A document without one leaves behind what was there. -/
  after_of_error : ∀ reason, turn.outcome = .error reason → turn.after = turn.before

/-- One turn, from any session: only what was read decides, and where nothing was, nothing changed. -/
theorem isFresh_walk (content? : Option String) (session : Session) :
    Turn.IsFresh ⟨content?, session, (session.walk content?).1, (session.walk content?).2⟩ := by
  cases hread : readDocument content? with
  | ok reading =>
    have hwalk (other : Session) : other.walk content? =
        (.ok reading.model, ⟨reading.associations?, reading.droppedCount⟩) := by
      rw [other.walk_eq_parse, Session.parse, hread]
    constructor
    · rw [hwalk, hwalk]
    · intro _ _
      rw [hwalk, hwalk]
    · intro reason hfailed
      rw [hwalk] at hfailed
      cases hfailed
  | error reason =>
    have hwalk (other : Session) : other.walk content? = (.error reason, other) := by
      rw [other.walk_eq_parse, Session.parse, hread]
    constructor
    · rw [hwalk, hwalk]
    · intro model hmodel
      rw [hwalk] at hmodel
      cases hmodel
    · intro _ _
      rw [hwalk]

/-- **In a run over any documents every one comes out as from a new parser,** and one without a
model leaves no trace. There is a turn for each document, in their order; the first one starts from
the session of the parser and every other from what the one before it left; and each is a parse. -/
theorem turns_fresh (contents : List (Option String)) (session : Session) :
    (turns session contents).map (·.content?) = contents ∧
      (∀ first ∈ (turns session contents).head?, first.before = session) ∧
      (turns session contents).IsChain (fun turn next => next.before = turn.after) ∧
      ∀ turn ∈ turns session contents,
        (turn.outcome, turn.after) = turn.before.parse turn.content? ∧ turn.IsFresh := by
  induction contents generalizing session with
  | nil => exact ⟨rfl, nofun, .nil, nofun⟩
  | cons content? rest ih =>
    obtain ⟨hcontents, hfirst, hchain, hfresh⟩ := ih (session.walk content?).2
    rw [turns]
    refine ⟨by rw [List.map_cons, hcontents], ?_, ?_, ?_⟩
    · rintro first ⟨⟩
      rfl
    · exact List.isChain_cons.mpr ⟨hfirst, hchain⟩
    · rintro turn hturn
      obtain rfl | hlater := List.mem_cons.mp hturn
      · exact ⟨session.walk_eq_parse content?, isFresh_walk content? session⟩
      · exact hfresh turn hlater

/-- Two documents with the same navigation, between which and after which come contents without a
model. In the first one an association gives the navigation a type, in the second one nothing may. -/
def olderThenModern : List (Option String) := [
  some ("<Edmx><Schema><EntityType Name='T'>" ++
    "<NavigationProperty Name='N' Relationship='X' ToRole='R'/></EntityType>" ++
    "<Association Name='X'><End Role='R' Type='T'/><End Role='S' Type='T'/></Association>" ++
    "</Schema></Edmx>"),
  some " ", none,
  some ("<Edmx Version='4'><Schema><EntityType Name='T'><NavigationProperty Name='N'/></EntityType>" ++
    "</Schema></Edmx>"),
  some "<Edmx/>"]

/-- The tables of the first document outlast the contents that have no model, and not the second
document; the navigation that the second one drops outlasts what has no model, too. -/
theorem turns_fresh_olderThenModern :
    ((turns {} olderThenModern).map fun turn =>
        (turn.outcome.toOption.isSome, turn.after.associations?.isSome, turn.after.dropped)) =
      [(true, true, 0), (false, true, 0), (false, true, 0), (true, false, 1), (false, false, 1)] ∧
      ∀ turn ∈ turns {} olderThenModern, turn.IsFresh :=
  ⟨by decide +kernel, fun turn hturn => ((turns_fresh olderThenModern {}).2.2.2 turn hturn).2⟩

end ODataExplorer.Csdl
