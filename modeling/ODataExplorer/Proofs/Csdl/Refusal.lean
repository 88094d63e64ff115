import ODataExplorer.Proofs.Csdl.Declared
import ODataExplorer.Proofs.Csdl.Detection

/-!
Why documents are refused.

A document is refused for what is wrong with it above its schemas, and for nothing else: there is
nothing to read, it is not XML, it has no envelope, or its envelope has no schema. `Refusal` states
the four reasons by what elements there are, without the tiers of a lookup: a lookup finds something
exactly where some element has the name (`findAll_eq_nil_iff`).

A document as it is given has two more ways to fail, which are nothing against its structure: its
text holds half of a pair, or its elements are nested deeper than there is room for. `Obstacle` adds
these.

Main statement: parsing fails with an obstacle exactly if there is that obstacle, and a document
without one gets a model, which leaves out what it cannot use (`parse_refused`). The obstacles that
are no reasons are met with, too (`parse_fails_unexpectedly`).
-/

namespace ODataExplorer.Csdl

open Xml Text

/-! ## What is not there -/

/-- No element of a list has the local name. -/
def NoneNamed (name : String) (elements : List Element) : Prop :=
  ∀ element ∈ elements, localName element.tag ≠ name

variable {root envelope : Element} {reason : StructuralError} {content? : Option String}

theorem findAll_eq_nil_iff {name : String} (h : IsPlain name) (hne : name ≠ "")
    (container : Element) :
    findAll name container = [] ↔ NoneNamed name container.descendants :=
  lookup_eq_nil_iff h hne

/-- A subtree has no element of a name where the element has another one and there is none below. -/
theorem noneNamed_subtree {name : String} (element : Element) :
    NoneNamed name element.subtree ↔
      localName element.tag ≠ name ∧ NoneNamed name element.descendants := by
  rw [Element.subtree_eq]
  exact List.forall_mem_cons

/-! ## Structure -/

/-- The envelope of a document: its root, or else the first envelope that is found below it. -/
inductive IsEnvelope (root : Element) : Element → Prop
  | root (h : localName root.tag = envelopeName) : IsEnvelope root root
  | below {envelope : Element} (h : localName root.tag ≠ envelopeName)
    (hfirst : findFirst? envelopeName root = some envelope) : IsEnvelope root envelope

/-- **The envelope is found, wherever it is,** and where none is, no element has its name. -/
theorem findEnvelope_cases (root : Element) :
    (∃ envelope, findEnvelope root = .ok envelope ∧ IsEnvelope root envelope) ∨
      findEnvelope root = .error (.noEnvelope root.tag) ∧ NoneNamed envelopeName root.subtree := by
  have hplain : IsPlain envelopeName := by decide
  unfold findEnvelope
  by_cases hroot : localName root.tag = envelopeName
  · rw [if_pos (beq_iff_eq.mpr hroot)]
    exact .inl ⟨root, rfl, .root hroot⟩
  · rw [if_neg fun heq => hroot (eq_of_beq heq)]
    cases hfirst : findFirst? envelopeName root with
    | some envelope => exact .inl ⟨envelope, rfl, .below hroot hfirst⟩
    | none =>
      have hnil : findAll envelopeName root = [] := List.head?_eq_none_iff.mp hfirst
      rw [findAll_eq_nil_iff hplain (by decide)] at hnil
      exact .inr ⟨rfl, (noneNamed_subtree root).mpr ⟨hroot, hnil⟩⟩

/-- An envelope is an element of its document with its name. -/
theorem IsEnvelope.not_noneNamed (h : IsEnvelope root envelope) :
    ¬NoneNamed envelopeName root.subtree := by
  intro hnone
  obtain ⟨hroot, hbelow⟩ := (noneNamed_subtree root).mp hnone
  cases h with
  | root h => exact hroot h
  | below _ hfirst =>
    rw [← findAll_eq_nil_iff (by decide) (by decide)] at hbelow
    rw [findFirst?, hbelow] at hfirst
    cases hfirst

/-- A document has one envelope. -/
theorem IsEnvelope.unique {other : Element} (h : IsEnvelope root envelope)
    (hother : IsEnvelope root other) : envelope = other := by
  cases h with
  | root h =>
    cases hother with
    | root => rfl
    | below hne => exact absurd h hne
  | below hne hfirst =>
    cases hother with
    | root h => exact absurd h hne
    | below _ hfirst' => exact Option.some.inj (hfirst.symm.trans hfirst')

/-- What reading a tree comes to, once it has an envelope. -/
theorem readTree_of_isEnvelope (h : IsEnvelope root envelope) :
    readTree root =
      if (findAll "Schema" envelope).isEmpty then .error .noSchema
      else .ok (.ofEnvelope envelope (findAll "Schema" envelope)) := by
  rw [readTree_eq]
  obtain ⟨other, hfound, hother⟩ | ⟨-, hnone⟩ := findEnvelope_cases root
  · rw [hfound, h.unique hother]
    rfl
  · exact absurd hnone h.not_noneNamed

/-! ## Refusals -/

/-- Why a document has no model. -/
inductive Refusal : Option String → StructuralError → Prop
  | absent : Refusal none .empty
  | blank {text : String} (h : isBlankText text = true) : Refusal (some text) .empty
  | malformed {text : String} {fault : Fault} (hblank : isBlankText text = false)
    (hread : Xml.read text = .error fault) : Refusal (some text) (.malformed fault)
  | noEnvelope {text : String} {root : Element} (hblank : isBlankText text = false)
    (hread : Xml.read text = .ok root) (hnone : NoneNamed envelopeName root.subtree) :
    Refusal (some text) (.noEnvelope root.tag)
  | noSchema {text : String} {root envelope : Element} (hblank : isBlankText text = false)
    (hread : Xml.read text = .ok root) (henvelope : IsEnvelope root envelope)
    (hnone : NoneNamed "Schema" envelope.descendants) : Refusal (some text) .noSchema

/-- A text is blank, or not XML, or the tree that it is read as. -/
theorem readContent_cases (content? : Option String) :
    (∃ reason, readContent content? = .error reason ∧ Refusal content? reason) ∨
      ∃ text root, content? = some text ∧ isBlankText text = false ∧ Xml.read text = .ok root ∧
        readContent content? = .ok root := by
  cases content? with
  | none => exact .inl ⟨.empty, rfl, .absent⟩
  | some text =>
    cases hblank : isBlankText text with
    | true => exact .inl ⟨.empty, if_pos hblank, .blank hblank⟩
    | false =>
      cases hread : Xml.read text with
      | error fault =>
        refine .inl ⟨.malformed fault, ?_, .malformed hblank hread⟩
        simp only [readContent, hblank, hread, Bool.false_eq_true, if_false]
      | ok root => exact .inr ⟨text, root, rfl, hblank, hread, readContent_eq_ok.mpr ⟨hblank, hread⟩⟩

/-- **A document is read, or there is a reason why it is not.** A document that is read has an
envelope with a schema, and its model abridges the schemas. -/
theorem parse_cases (content? : Option String) :
    (∃ reason, parse content? = .error reason ∧ Refusal content? reason) ∨
      ∃ root envelope model, readContent content? = .ok root ∧ IsEnvelope root envelope ∧
        parse content? = .ok model ∧ model.Abridges (findAll "Schema" envelope) := by
  have hplain : IsPlain "Schema" := by decide
  obtain ⟨reason, hfailed, hrefusal⟩ | ⟨text, root, rfl, hblank, hxml, hroot⟩ :=
    readContent_cases content?
  · refine .inl ⟨reason, ?_, hrefusal⟩
    rw [parse, readDocument, hfailed]
    rfl
  · rw [parse, readDocument_eq hroot]
    obtain ⟨envelope, -, henvelope⟩ | ⟨hfailed, hnone⟩ := findEnvelope_cases root
    · rw [readTree_of_isEnvelope henvelope]
      by_cases hnil : findAll "Schema" envelope = []
      · rw [if_pos (List.isEmpty_iff.mpr hnil)]
        rw [findAll_eq_nil_iff hplain (by decide)] at hnil
        exact .inl ⟨.noSchema, rfl, .noSchema hblank hxml henvelope hnil⟩
      · rw [if_neg fun hempty => hnil (List.isEmpty_iff.mp hempty)]
        exact .inr ⟨root, envelope, _, hroot, henvelope, rfl, abridges_ofEnvelope _ _⟩
    · rw [readTree_eq, hfailed]
      exact .inl ⟨_, rfl, .noEnvelope hblank hxml hnone⟩

/-- A reason against a document refuses it. -/
theorem Refusal.parse_eq (h : Refusal content? reason) : parse content? = .error reason := by
  -- a text that is read as a tree is refused as the tree is
  have htree : ∀ {text root}, isBlankText text = false → Xml.read text = .ok root →
      readTree root = .error reason → parse (some text) = .error reason := by
    intro text root hblank hread htree
    rw [parse, readDocument_eq (readContent_eq_ok.mpr ⟨hblank, hread⟩), htree]
    rfl
  cases h with
  | absent => rfl
  | blank h => simp only [parse, readDocument, readContent, h, if_true, bind, Except.bind]
  | malformed hblank hread =>
    simp only [parse, readDocument, readContent, hblank, hread, Bool.false_eq_true, if_false, bind,
      Except.bind]
  | noEnvelope hblank hread hnone =>
    refine htree hblank hread ?_
    obtain ⟨envelope, -, henvelope⟩ | ⟨hfailed, -⟩ := findEnvelope_cases _
    · exact absurd hnone henvelope.not_noneNamed
    · rw [readTree_eq, hfailed]
      rfl
  | noSchema hblank hread henvelope hnone =>
    refine htree hblank hread ?_
    rw [← findAll_eq_nil_iff (by decide) (by decide)] at hnone
    rw [readTree_of_isEnvelope henvelope, hnone]
    rfl

/-! ## Documents as they are given -/

/-- What keeps a document that is given from having a model: a reason against its structure, a half
of a pair in its text, or elements nested deeper than there is room for. -/
inductive Obstacle (room : Room) : Option Wording → DocumentFault → Prop
  | refusal {content? : Option String} {reason : StructuralError} (h : Refusal content? reason)
    (hfits : ∀ root, readContent content? = .ok root → room.fits root.height = true) :
    Obstacle room (content?.map .text) (.structural reason)
  | halved (text : Halved) : Obstacle room (some (.halved text)) (.halved text)
  | tooDeep {text : String} {root : Element} (hblank : isBlankText text = false)
    (hread : Xml.read text = .ok root) (hdeep : room.fits root.height = false) :
    Obstacle room (some (.text text)) .tooDeep

variable {room : Room} {given? : Option Wording} {fault : DocumentFault}

theorem Obstacle.eq_halved {text : Halved} (h : Obstacle room given? (.halved text)) :
    given? = some (.halved text) := by
  cases h
  rfl

theorem textOfGiven_map_text (content? : Option String) :
    textOfGiven (content?.map .text) = .ok content? := by
  cases content? <;> rfl

/-- A text that is no tree is refused before anything is walked over. -/
theorem parseGiven_of_readContent_error (room : Room)
    (h : readContent content? = .error reason) :
    parseGiven room (content?.map .text) = .error (.structural reason) := by
  rw [parseGiven, readGiven, textOfGiven_map_text]
  simp only [bind, Except.bind, h, Except.mapError]

/-- A tree with room for it is parsed as its text is. -/
theorem parseGiven_of_readContent_ok (room : Room) (h : readContent content? = .ok root) :
    parseGiven room (content?.map .text) =
      if room.fits root.height then (parse content?).mapError .structural else .error .tooDeep := by
  rw [parseGiven, readGiven, textOfGiven_map_text, parse, readDocument_eq h]
  simp only [bind, Except.bind, h, Except.mapError]
  cases room.fits root.height with
  | false => rfl
  | true =>
    cases readTree root <;> rfl

/-- A content without halves is read, or there is an obstacle to it. -/
theorem parseGiven_map_text_cases (room : Room) (content? : Option String) :
    (∃ fault, parseGiven room (content?.map .text) = .error fault ∧
      Obstacle room (content?.map .text) fault) ∨
      ∃ root envelope model, readContent content? = .ok root ∧ IsEnvelope root envelope ∧
        parseGiven room (content?.map .text) = .ok model ∧
        model.Abridges (findAll "Schema" envelope) := by
  obtain ⟨reason, hfailed, hrefusal⟩ | ⟨text, root, rfl, hblank, hxml, hroot⟩ :=
    readContent_cases content?
  · refine .inl ⟨_, parseGiven_of_readContent_error room hfailed, .refusal hrefusal fun root h => ?_⟩
    rw [hfailed] at h
    cases h
  · rw [parseGiven_of_readContent_ok room hroot]
    cases hfits : room.fits root.height with
    | false => exact .inl ⟨_, rfl, .tooDeep hblank hxml hfits⟩
    | true =>
      have hroom : ∀ other, readContent (some text) = .ok other → room.fits other.height = true := by
        intro other hother
        rw [hroot] at hother
        cases hother
        exact hfits
      obtain ⟨reason, hfailed, hrefusal⟩ | ⟨other, envelope, model, hother, henvelope, hmodel, hall⟩ :=
        parse_cases (some text)
      · rw [hfailed]
        exact .inl ⟨_, rfl, .refusal hrefusal hroom⟩
      · rw [hmodel]
        rw [hroot] at hother
        cases hother
        exact .inr ⟨root, envelope, model, hroot, henvelope, rfl, hall⟩

/-- **A document that is given is read, or there is an obstacle to it.** -/
theorem parseGiven_cases (room : Room) (given? : Option Wording) :
    (∃ fault, parseGiven room given? = .error fault ∧ Obstacle room given? fault) ∨
      ∃ text root envelope model, given? = some (.text text) ∧
        readContent (some text) = .ok root ∧ IsEnvelope root envelope ∧
        parseGiven room given? = .ok model ∧ model.Abridges (findAll "Schema" envelope) := by
  rcases given? with - | ⟨text | text⟩
  · obtain hobstacle | ⟨_, _, _, hroot, -⟩ := parseGiven_map_text_cases room none
    · exact .inl hobstacle
    · cases hroot
  · obtain hobstacle | ⟨root, envelope, model, hread⟩ := parseGiven_map_text_cases room (some text)
    · exact .inl hobstacle
    · exact .inr ⟨text, root, envelope, model, rfl, hread⟩
  · exact .inl ⟨_, rfl, .halved text⟩

/-- An obstacle to a document is what its parsing fails with. -/
theorem Obstacle.parseGiven_eq (h : Obstacle room given? fault) :
    parseGiven room given? = .error fault := by
  cases h with
  | @refusal content? reason h hfits =>
    cases hread : readContent content? with
    | error other =>
      rw [parseGiven_of_readContent_error room hread]
      have hparse := h.parse_eq
      rw [parse, readDocument, hread] at hparse
      cases hparse
      rfl
    | ok root =>
      rw [parseGiven_of_readContent_ok room hread, if_pos (hfits root hread), h.parse_eq]
      rfl
  | halved text => rfl
  | @tooDeep text root hblank hread hdeep =>
    have hroot := readContent_eq_ok.mpr ⟨hblank, hread⟩
    have hparse := parseGiven_of_readContent_ok room hroot
    rwa [hdeep, if_neg Bool.false_ne_true] at hparse

/-- **What parsing fails with is what stands in its way.** -/
theorem parseGiven_eq_error_iff :
    parseGiven room given? = .error fault ↔ Obstacle room given? fault := by
  refine ⟨fun hfailed => ?_, Obstacle.parseGiven_eq⟩
  obtain ⟨other, hother, hobstacle⟩ | ⟨_, _, _, model, -, -, -, hmodel, -⟩ :=
    parseGiven_cases room given?
  · rw [hfailed] at hother
    cases hother
    exact hobstacle
  · rw [hfailed] at hmodel
    cases hmodel

/-- The first envelope decides, even if only a later one has a schema. -/
example : (readTree (.node "x" [] [
    .node "Edmx" [] [], .node "Edmx" [] [.node "Schema" [] []]])).toOption.isNone := by
  decide +kernel

end ODataExplorer.Csdl
