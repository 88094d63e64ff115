import ODataExplorer.Proofs.Csdl.Refusal
import ODataExplorer.Proofs.Text.Trim

/-!
The versions of a detected document.

A document is detected by its root, and its version by an attribute of the root. Parsing looks for
the same root and reads the same attribute again, and then goes on to another attribute, further
inside, if the first one does not say that the document is modern. `Speaks` states what it finds
there, from the list of attributes and not by looking them up (`FindsByLocalName`).

Main statement: what is detected is parsed, with the detected version as that of the envelope, unless
it has no schema (`parse_detected`). So the two never part over a text: neither over what is blank or
not XML, nor over where the root is, nor over how the version is trimmed.
-/

namespace ODataExplorer.Csdl

open Xml Text

variable {envelope element : Element} {name version value : String}

/-! ## Attributes by their local names -/

/-- The value that a local name finds among attributes: of the one without a namespace, or, where
there is none, of the first with the local name. -/
inductive FindsByLocalName (name : String) (attributes : List (String × String)) (value : String) :
    Prop
  | unqualified {before after : List (String × String)}
    (attributes_eq : attributes = before ++ (name, value) :: after)
    (first : ∀ entry ∈ before, entry.1 ≠ name)
  | qualified {before after : List (String × String)} {key : String}
    (none_unqualified : ∀ entry ∈ attributes, entry.1 ≠ name)
    (attributes_eq : attributes = before ++ (key, value) :: after)
    (key_eq : localName key = name)
    (first : ∀ entry ∈ before, localName entry.1 ≠ name)

theorem get?_eq_some_iff :
    element.get? name = some value ↔
      ∃ before after, element.attributes = before ++ (name, value) :: after ∧
        ∀ entry ∈ before, entry.1 ≠ name := by
  simp only [Element.get?, List.lookup_eq_some_iff, bne_iff_ne, ne_comm]

theorem get?_eq_none_iff :
    element.get? name = none ↔ ∀ entry ∈ element.attributes, entry.1 ≠ name := by
  simp only [Element.get?, List.lookup_eq_none_iff, bne_iff_ne, ne_comm]

/-- An attribute is found by its local name, the one without a namespace first. -/
theorem attributeByLocalName?_eq_some_iff :
    attributeByLocalName? name element = some value ↔
      FindsByLocalName name element.attributes value := by
  rw [attributeByLocalName?, Option.or_eq_some_iff, get?_eq_some_iff, get?_eq_none_iff,
    Option.map_eq_some_iff]
  constructor
  · rintro (⟨before, after, heq, hfirst⟩ | ⟨hnone, ⟨key, _⟩, hfind, rfl⟩)
    · exact .unqualified heq hfirst
    · obtain ⟨hkey, before, after, heq, hfirst⟩ := List.find?_eq_some_iff_append.mp hfind
      refine .qualified hnone heq (eq_of_beq hkey) fun entry hentry hname => ?_
      have := hfirst entry hentry
      simp [hname] at this
  · intro h
    cases h with
    | unqualified heq hfirst => exact .inl ⟨_, _, heq, hfirst⟩
    | @qualified before after key hnone heq hkey hfirst =>
      refine .inr ⟨hnone, (key, value), List.find?_eq_some_iff_append.mpr ?_, rfl⟩
      exact ⟨beq_iff_eq.mpr hkey, before, after, heq, fun entry hentry => by
        simp [hfirst entry hentry]⟩

/-! ## Versions -/

/-- The version on the services element of an envelope: what the attribute says, if it is not blank,
without the blanks around it. -/
def SaysInside (envelope : Element) (version : String) : Prop :=
  ∃ services value, findFirst? "DataServices" envelope = some services ∧
    FindsByLocalName "DataServiceVersion" services.attributes value ∧
    isBlankText value = false ∧ version = trim value

theorem innerVersion?_eq_some_iff :
    innerVersion? envelope = some version ↔ SaysInside envelope version := by
  simp only [innerVersion?, Option.bind_eq_bind, Option.bind_eq_some_iff, isEmpty_trim,
    attributeByLocalName?_eq_some_iff, SaysInside]
  constructor
  · rintro ⟨services, hservices, value, hvalue, h⟩
    split at h
    · cases h
    · next hblank =>
      cases h
      exact ⟨services, value, hservices, hvalue, Bool.eq_false_iff.mpr hblank, rfl⟩
  · rintro ⟨services, value, hservices, hvalue, hblank, rfl⟩
    refine ⟨services, hservices, value, hvalue, ?_⟩
    rw [hblank, if_neg Bool.false_ne_true]

/-- The version that an older document speaks: the one inside its envelope, if it says one there,
else the one that the envelope declares. -/
inductive Speaks (envelope : Element) (declared : String) : String → Prop
  | inside {version : String} (hinside : SaysInside envelope version) :
    Speaks envelope declared version
  | declared (hnone : ∀ version, ¬SaysInside envelope version) :
    Speaks envelope declared declared

theorem speaks_getD_innerVersion? (envelope : Element) (declared : String) :
    Speaks envelope declared ((innerVersion? envelope).getD declared) := by
  cases hinner : innerVersion? envelope with
  | some version => exact .inside (innerVersion?_eq_some_iff.mp hinner)
  | none =>
    refine .declared fun version hinside => ?_
    rw [innerVersion?_eq_some_iff.mpr hinside] at hinner
    cases hinner

/-- A trimmed version is modern if it starts with a four. -/
theorem isModernVersion_iff (h : IsTrimmed version) :
    isModernVersion version = true ↔ ['4'] <+: version.toList := by
  rw [isModernVersion, ← toList_trim, h, List.isPrefixOf_iff_prefix]

/-- The versions by an envelope that declares one. -/
theorem ofRoot_of_declared (h : trim (envelope.getText "Version") = version) (hne : version ≠ "") :
    (Versions.ofRoot envelope).envelope = version ∧
      (['4'] <+: version.toList → (Versions.ofRoot envelope).protocol = version ∧
        isModernVersion (Versions.ofRoot envelope).protocol = true) ∧
      (¬['4'] <+: version.toList →
        Speaks envelope version (Versions.ofRoot envelope).protocol) := by
  have htrimmed : IsTrimmed version := h ▸ isTrimmed_trim _
  have hempty : version.isEmpty = false := String.isEmpty_eq_false_iff.mpr hne
  have hofRoot : Versions.ofRoot envelope =
      if isModernVersion version then ⟨version, version⟩
      else ⟨(innerVersion? envelope).getD version, version⟩ := by
    rw [Versions.ofRoot, h, hempty]
    rfl
  rw [hofRoot, ← isModernVersion_iff htrimmed]
  cases hmodern : isModernVersion version with
  | true => exact ⟨rfl, fun _ => ⟨rfl, hmodern⟩, fun hnot => absurd rfl hnot⟩
  | false => exact ⟨rfl, nofun, fun _ => speaks_getD_innerVersion? envelope version⟩

/-! ## Detected documents -/

/-- **What is detected is parsed.** It is refused only for having no schema. With one it has a model,
whose envelope declares the detected version. If that starts with a four, the document speaks it and
is modern; otherwise it speaks the version inside the envelope, if there is one, and the detected one
if there is not. -/
theorem parse_detected {text version : String} (h : detectVersion? (some text) = some version) :
    ∃ root, Xml.read text = .ok root ∧
      (NoneNamed "Schema" root.descendants → parse (some text) = .error .noSchema) ∧
      (¬NoneNamed "Schema" root.descendants →
        ∃ model, parse (some text) = .ok model ∧ model.versions.envelope = version ∧
          (['4'] <+: version.toList →
            model.versions.protocol = version ∧ model.isModern = true) ∧
          (¬['4'] <+: version.toList → Speaks root version model.versions.protocol)) := by
  obtain ⟨hblank, root, hread, hname, hdeclared, hmem⟩ := detectVersion?_eq_some_iff.mp h
  have hne : version ≠ "" := fun hempty => absurd (hempty ▸ hmem) (by decide)
  have henvelope : IsEnvelope root root := .root hname
  refine ⟨root, hread, fun hnone => ?_, fun hsome => ?_⟩
  · exact (Refusal.noSchema hblank hread henvelope hnone).parse_eq
  · have hschemas : ¬(findAll "Schema" root).isEmpty = true := by
      rw [List.isEmpty_iff, findAll_eq_nil_iff (by decide) (by decide)]
      exact hsome
    have htree : readTree root = .ok (.ofEnvelope root (findAll "Schema" root)) := by
      rw [readTree_of_isEnvelope henvelope, if_neg hschemas]
    have hmodel := parse_of_readTree (readContent_eq_ok.mpr ⟨hblank, hread⟩) htree
    refine ⟨_, hmodel, ?_⟩
    rw [Model.isModern, DocumentReading.versions_model, DocumentReading.versions_ofEnvelope]
    exact ofRoot_of_declared hdeclared hne

/-- A document of the older dialect, whose envelope declares a version of its own, with blanks. -/
def olderDocument : String :=
  "<Edmx Version=' 3.0 '><DataServices xmlns:m='m' m:DataServiceVersion=' 2.0 '><Schema/>" ++
    "</DataServices></Edmx>"

theorem parse_detected_older :
    detectVersion? (some olderDocument) = some "3.0" ∧ ∃ root model,
      Xml.read olderDocument = .ok root ∧ ¬NoneNamed "Schema" root.descendants ∧
        parse (some olderDocument) = .ok model ∧ model.versions = ⟨"2.0", "3.0"⟩ ∧
        Speaks root "3.0" model.versions.protocol := by
  have hdetected : detectVersion? (some olderDocument) = some "3.0" := by decide +kernel
  have hversions : (parse (some olderDocument)).toOption.map (·.versions) =
      some ⟨"2.0", "3.0"⟩ := by decide +kernel
  obtain ⟨root, hread, hrefused, hparsed⟩ := parse_detected hdetected
  have hsome : ¬NoneNamed "Schema" root.descendants := fun hnone => by
    rw [hrefused hnone] at hversions
    cases hversions
  obtain ⟨model, hmodel, -, -, holder⟩ := hparsed hsome
  rw [hmodel] at hversions
  exact ⟨hdetected, root, model, hread, hsome, hmodel, Option.some.inj hversions,
    holder (by decide)⟩

end ODataExplorer.Csdl
