import ODataExplorer.Proofs.Csdl.Edit

/-!
Foreign elements.

Documents carry annotations, extensions and wrappers of their producers. A subtree is foreign if no
element of it has a name that a reading looks for (`isForeign`). Main statement: foreign subtrees
may be inserted below a root wherever they please, and an envelope may stand as deep in a tree as it
pleases, without any change to what the document comes to (`parse_foreign`).

An edit of foreign siblings leaves every name of the vocabulary alone, at any depth and among
children, so that no stage of the reading can see it.
-/

namespace ODataExplorer.Csdl

open Xml Text

/-- The names that a reading looks for. -/
def vocabulary : List String := deepNames ++ childNames

/-- A subtree in which no element has a name that a reading looks for. -/
def isForeign (element : Element) : Bool := holdsNone vocabulary element

/-- The edit that inserts and removes foreign siblings, and exchanges them for other ones. -/
def exchangeForeign : Edit := exchange fun _ => isForeign

theorem leavesAlone_exchangeForeign {name : String} (h : name ∈ vocabulary) :
    LeavesAlone exchangeForeign [] name :=
  leavesAlone_of_loose (editsOnly_exchange _) fun _ _ _ hforeign _ hbelow =>
    localName_ne_of_holdsNone hforeign h hbelow

theorem leavesSiblingsAlone_exchangeForeign {name : String} (h : name ∈ vocabulary) :
    LeavesSiblingsAlone exchangeForeign [] name :=
  leavesSiblingsAlone_of_loose (editsOnly_exchange _) fun _ _ e hforeign =>
    localName_ne_of_holdsNone hforeign h (Element.mem_subtree_self e)

/-- A foreign subtree may be inserted before the children of an element. -/
theorem Edited.cons_foreign {around : List String} {tag : String}
    {attributes : List (String × String)} {children children' : List Element} {inserted : Element}
    (hforeign : isForeign inserted = true)
    (h : EditedAll exchangeForeign (localName tag :: around) children children') :
    Edited exchangeForeign around (.node tag attributes children)
      (.node tag attributes (inserted :: children')) := by
  refine .node h ?_
  rw [exchangeForeign, exchange, SameBesides, List.filter_cons, hforeign]
  rfl

/-- No stage of a reading sees foreign siblings. -/
theorem readsAlike_exchangeForeign : ReadsAlike (EditedIn exchangeForeign []) where
  toSaysAlike := saysAlike_editedIn _ _
  finds name hname := by
    have hplain : ∀ name ∈ deepNames, IsPlain name := by decide
    exact findsAlike_editedIn (hplain name hname)
      (leavesAlone_exchangeForeign (List.mem_append_left _ hname))
  holds name hname := holdsAlike_editedIn
    (leavesSiblingsAlone_exchangeForeign (List.mem_append_right _ hname))

/-! ## The only envelope -/

section Envelope

variable {root envelope : Element}

theorem localName_of_filter_eq
    (h : root.subtree.filter (localName ·.tag == envelopeName) = [envelope]) :
    localName envelope.tag = envelopeName := by
  have hmem : envelope ∈ root.subtree.filter (localName ·.tag == envelopeName) := by
    rw [h]
    exact List.mem_singleton_self envelope
  exact eq_of_beq (List.mem_filter.mp hmem).2

/-- The only envelope of a tree is the one that is read. -/
theorem findEnvelope_of_filter_eq
    (h : root.subtree.filter (localName ·.tag == envelopeName) = [envelope]) :
    findEnvelope root = .ok envelope := by
  have hname := localName_of_filter_eq h
  have hplain : IsPlain envelopeName := by decide
  rw [Element.subtree_eq, List.filter_cons] at h
  unfold findEnvelope
  split at h
  · next hroot => rw [if_pos hroot, (List.cons.inj h).1]
  · next hroot =>
    have hsingle : lookup Element.tag envelopeName [envelope] = [envelope] := by
      rw [lookup_eq_filter hplain (by decide)]
      · exact List.filter_cons_of_pos (beq_iff_eq.mpr hname)
      · intro a ha b hb _ _
        rw [List.mem_singleton.mp ha, List.mem_singleton.mp hb]
    have hfound : findAll envelopeName root = [envelope] := by
      rw [findAll, ← lookup_filter hplain, h, hsingle]
    rw [if_neg hroot, findFirst?, hfound]
    rfl

/-- A tree comes to what its only envelope comes to. -/
theorem outcome?_of_filter_eq
    (h : root.subtree.filter (localName ·.tag == envelopeName) = [envelope]) :
    outcome? root = outcome? envelope := by
  have hself : findEnvelope envelope = .ok envelope := by
    rw [findEnvelope, if_pos (beq_iff_eq.mpr (localName_of_filter_eq h))]
  rw [outcome?_eq, outcome?_eq, toOption_findSchemas, toOption_findSchemas,
    findEnvelope_of_filter_eq h, hself]

end Envelope

/-! ## Documents -/

/-- **Foreign elements are invisible.** A document comes to the same whatever foreign subtrees stand
below its root; and a tree with one envelope comes to what the envelope comes to alone, whatever it
is wrapped in. -/
theorem parse_foreign :
    (∀ root other : Element, Edited exchangeForeign [] root other →
        OutcomesRelated Eq root other) ∧
      ∀ root envelope : Element,
        root.subtree.filter (localName ·.tag == envelopeName) = [envelope] →
          OutcomesRelated Eq root envelope := by
  constructor
  · intro root other h
    exact outcomesRelated_of_eq (readsAlike_exchangeForeign.outcome?_eq (.of_edited h))
  · intro root envelope h
    exact outcomesRelated_of_eq (outcome?_of_filter_eq h)

/-- A note of a vendor, which has the name of a type. -/
def note : Element := .node "\x7bvendor\x7dNote" [("Name", "T")] [.node "Remark" [] []]

/-- A document of the older dialect, with the same elements before the children of every element. -/
def documentWith (inserted : List Element) : Element :=
  .node "Edmx" [("Version", "1.0")] (inserted ++ [
    .node "DataServices" [("DataServiceVersion", "2.0")] (inserted ++ [
      .node "Schema" [("Namespace", "A")] (inserted ++ [
        .node "EntityType" [("Name", "T")] (inserted ++ [
          .node "Property" [("Name", "P")] inserted])])])])

/-- Notes may stand everywhere in a document, and all around it. -/
theorem parse_foreign_note :
    Edited exchangeForeign [] (documentWith []) (documentWith [note]) ∧
      OutcomesRelated Eq (documentWith []) (documentWith [note]) ∧
        OutcomesRelated Eq (.node "Notes" [] [note, documentWith [note]]) (documentWith [note]) ∧
          (outcome? (documentWith [])).map (·.1.types.map (·.propertyNames)) = some [["P"]] := by
  have hnote : isForeign note = true := by decide
  have hedited : Edited exchangeForeign [] (documentWith []) (documentWith [note]) :=
    .cons_foreign hnote (.cons (.cons_foreign hnote (.cons (.cons_foreign hnote (.cons
      (.cons_foreign hnote (.cons (.cons_foreign hnote .nil) .nil)) .nil)) .nil)) .nil)
  exact ⟨hedited, parse_foreign.1 _ _ hedited, parse_foreign.2 _ _ rfl, by decide⟩

end ODataExplorer.Csdl
