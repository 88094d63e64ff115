import ODataExplorer.Csdl.Document

/-!
What detection recognizes.

Parsing takes the envelope from anywhere in a document, with any version or none. Detection wants it
to be the root and its version to be listed. `IsRecognized` says so of a text, and detection gives a
version for exactly the recognized texts (`isSome_detectVersion?`).
-/

namespace ODataExplorer.Csdl

open Xml Text

/-- A document whose root is an envelope with a version that is listed. -/
def IsRecognized (text : String) : Prop :=
  isBlankText text = false ∧ ∃ root, Xml.read text = .ok root ∧
    localName root.tag = envelopeName ∧ trim (root.getText "Version") ∈ recognizedVersions

/-- A text that is not blank is read as the XML that it is. -/
theorem readContent_eq_ok {text : String} {root : Element} :
    readContent (some text) = .ok root ↔ isBlankText text = false ∧ Xml.read text = .ok root := by
  simp only [readContent]
  cases isBlankText text with
  | true => simp
  | false =>
    cases Xml.read text with
    | error fault => simp
    | ok other => simp

/-- The version that is detected is the one that the root declares. -/
theorem detectVersion?_eq_some_iff {text version : String} :
    detectVersion? (some text) = some version ↔ isBlankText text = false ∧
      ∃ root, Xml.read text = .ok root ∧ localName root.tag = envelopeName ∧
        trim (root.getText "Version") = version ∧ version ∈ recognizedVersions := by
  rw [detectVersion?]
  constructor
  · intro h
    split at h
    · cases h
    · next root hcontent =>
      obtain ⟨hblank, hread⟩ := readContent_eq_ok.mp hcontent
      dsimp only at h
      split at h
      · next hdetected =>
        cases h
        obtain ⟨hname, hversion⟩ := Bool.and_eq_true_iff.mp hdetected
        exact ⟨hblank, root, hread, eq_of_beq hname, rfl, List.contains_iff_mem.mp hversion⟩
      · cases h
  · rintro ⟨hblank, root, hread, hname, rfl, hversion⟩
    rw [readContent_eq_ok.mpr ⟨hblank, hread⟩]
    dsimp only
    rw [if_pos (Bool.and_eq_true_iff.mpr
      ⟨beq_iff_eq.mpr hname, List.contains_iff_mem.mpr hversion⟩)]

/-- **A version is detected for exactly the recognized texts.** -/
theorem isSome_detectVersion? (text : String) :
    (detectVersion? (some text)).isSome ↔ IsRecognized text := by
  simp only [Option.isSome_iff_exists, detectVersion?_eq_some_iff]
  constructor
  · rintro ⟨version, hblank, root, hread, hname, rfl, hversion⟩
    exact ⟨hblank, root, hread, hname, hversion⟩
  · rintro ⟨hblank, root, hread, hname, hversion⟩
    exact ⟨_, hblank, root, hread, hname, rfl, hversion⟩

instance (text : String) : Decidable (IsRecognized text) :=
  decidable_of_iff _ (isSome_detectVersion? text)

end ODataExplorer.Csdl
