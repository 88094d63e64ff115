import ODataExplorer.Proofs.Csdl.Declared
import ODataExplorer.Proofs.Csdl.Session
import ODataExplorer.Proofs.Text.Trim

/-!
Every navigation element is accounted for.

A type keeps some of its navigation elements, and what becomes of the others shows in the log and in
one number. Here each element is given its due: it has no name, its name was kept from an earlier
sibling, it is kept, or it is dropped because nothing gives it a type (`Due`). What is due depends
on the siblings before it, and on no more of them than which names were kept.

A dropped element leaves its name free, so a name is taken exactly if an earlier element of the name
has a type to go by (`keepsName_take_iff`): of several elements of one name the first with a type is
kept, those before it are dropped and those after it repeated.

Main statement: in every document that has a model, each navigation element of each type element
with a name gets what it is due, the four kinds add up, and the number that a parser shows after it
is that of the dropped elements of all these types, whether the types were kept or not
(`navigations_accounted`).
-/

namespace ODataExplorer.Csdl

open Xml Text

variable {associations? : Option Associations} {element : Element}

/-! ## Types of navigations -/

/-- An element gives a type: its own without the blanks around it, or, where it has none or a blank
one, the target that the associations have for its relationship and role. -/
inductive GivesType (associations? : Option Associations) (element : Element) : String → Prop
  | inline (typed : isBlankText (element.getText "Type") = false) :
    GivesType associations? element (trim (element.getText "Type"))
  | target {associations : Associations} {type : String}
    (untyped : isBlankText (element.getText "Type") = true)
    (older : associations? = some associations)
    (resolved : associations.resolve? (element.getText "Relationship")
      (element.getText "ToRole") = some type) :
    GivesType associations? element type

theorem navigationType?_eq_some_iff {type : String} :
    navigationType? associations? element = some type ↔ GivesType associations? element type := by
  rw [navigationType?, isEmpty_trim]
  constructor
  · intro h
    split at h
    · next huntyped =>
      obtain ⟨associations, holder, hresolved⟩ := Option.bind_eq_some_iff.mp h
      exact .target huntyped holder hresolved
    · next htyped =>
      cases h
      exact .inline (Bool.eq_false_iff.mpr htyped)
  · rintro (htyped | ⟨huntyped, holder, hresolved⟩)
    · rw [htyped, if_neg Bool.false_ne_true]
    · rw [if_pos huntyped]
      exact Option.bind_eq_some_iff.mpr ⟨_, holder, hresolved⟩

theorem navigationType?_eq_none_iff :
    navigationType? associations? element = none ↔
      ∀ type, ¬GivesType associations? element type := by
  rw [Option.eq_none_iff_forall_ne_some]
  exact forall_congr' fun type => not_congr navigationType?_eq_some_iff

/-- Without associations an element gives a type exactly if it has one that is not blank. -/
theorem not_givesType_none_iff :
    (∀ type, ¬GivesType none element type) ↔ isBlankText (element.getText "Type") = true := by
  rw [← navigationType?_eq_none_iff, navigationType?, isEmpty_trim]
  cases isBlankText (element.getText "Type") with
  | true => exact iff_of_true rfl rfl
  | false => exact iff_of_false nofun nofun

/-! ## What an element is due -/

/-- A name was kept: one of the verdicts keeps a navigation of that name. -/
def KeepsName (verdicts : List NavigationReading) (name : String) : Prop :=
  ∃ navigation, NavigationReading.kept navigation ∈ verdicts ∧ navigation.name = name

/-- The verdict that an element is due, after those on its earlier siblings. -/
inductive Due (associations? : Option Associations) (earlier : List NavigationReading)
    (element : Element) : NavigationReading → Prop
  | unnamed (nameless : element.getText "Name" = "") : Due associations? earlier element .unnamed
  | repeated (named : element.getText "Name" ≠ "")
    (taken : KeepsName earlier (element.getText "Name")) :
    Due associations? earlier element (.repeated (element.getText "Name"))
  | kept {type : String} (named : element.getText "Name" ≠ "")
    (free : ¬KeepsName earlier (element.getText "Name"))
    (typed : GivesType associations? element type) :
    Due associations? earlier element
      (.kept ⟨element.getText "Name", type, readConstraint? element⟩)
  | unresolved (named : element.getText "Name" ≠ "")
    (free : ¬KeepsName earlier (element.getText "Name"))
    (untyped : ∀ type, ¬GivesType associations? element type) :
    Due associations? earlier element (.unresolved (element.getText "Name"))

section Due

variable {earlier : List NavigationReading} {kept : List String} {verdict : NavigationReading}

theorem not_keepsName_nil (name : String) : ¬KeepsName [] name := by
  rintro ⟨_, hmem, -⟩
  exact List.not_mem_nil hmem

theorem KeepsName.mono {verdicts : List NavigationReading} {name : String}
    (h : KeepsName earlier name) (hsubset : earlier ⊆ verdicts) : KeepsName verdicts name := by
  obtain ⟨navigation, hmem, hname⟩ := h
  exact ⟨navigation, hsubset hmem, hname⟩

/-- One more verdict keeps one more name, if it keeps a navigation at all. -/
theorem keepsName_concat {name : String} :
    KeepsName (earlier ++ [verdict]) name ↔
      KeepsName earlier name ∨ name ∈ (verdict.kept?.map (·.name)).toList := by
  simp only [KeepsName, List.mem_append, List.mem_singleton, or_and_right, exists_or]
  refine or_congr_right ?_
  cases verdict <;> simp [NavigationReading.kept?, eq_comm]

/-- The step: an element is judged as it is due, by the names that the verdicts before it kept. -/
theorem judge_eq_iff (hkept : ∀ name, name ∈ kept ↔ KeepsName earlier name) :
    Walk.judge associations? kept element = verdict ↔
      Due associations? earlier element verdict := by
  have hcontains : kept.contains (element.getText "Name") = true ↔
      KeepsName earlier (element.getText "Name") := List.contains_iff_mem.trans (hkept _)
  constructor
  · rintro rfl
    rw [Walk.judge]
    split
    · next hname => exact .unnamed (String.isEmpty_iff.mp hname)
    · next hname =>
      have hnamed : element.getText "Name" ≠ "" := fun heq => hname (String.isEmpty_iff.mpr heq)
      split
      · next htaken => exact .repeated hnamed (hcontains.mp htaken)
      · next hfree =>
        have hfree := fun htaken => hfree (hcontains.mpr htaken)
        split
        · next type htype => exact .kept hnamed hfree (navigationType?_eq_some_iff.mp htype)
        · next htype => exact .unresolved hnamed hfree (navigationType?_eq_none_iff.mp htype)
  · intro hdue
    rw [Walk.judge]
    cases hdue with
    | unnamed nameless => rw [nameless]; rfl
    | repeated named taken =>
      rw [if_neg fun hname => named (String.isEmpty_iff.mp hname), if_pos (hcontains.mpr taken)]
    | kept named free typed =>
      rw [if_neg fun hname => named (String.isEmpty_iff.mp hname),
        if_neg fun htaken => free (hcontains.mp htaken), navigationType?_eq_some_iff.mpr typed]
    | unresolved named free untyped =>
      rw [if_neg fun hname => named (String.isEmpty_iff.mp hname),
        if_neg fun htaken => free (hcontains.mp htaken), navigationType?_eq_none_iff.mpr untyped]

/-- The loop: by induction on the elements to come, each judged by the names that were kept so
far. -/
theorem getElem?_judgeNavigations_eq_some_iff (i : Nat) :
    ∀ {elements : List Element} {kept : List String} {earlier : List NavigationReading},
      (∀ name, name ∈ kept ↔ KeepsName earlier name) → elements[i]? = some element →
      ((judgeNavigations associations? kept elements)[i]? = some verdict ↔
        Due associations? (earlier ++ (judgeNavigations associations? kept elements).take i)
          element verdict) := by
  induction i with
  | zero =>
    intro elements kept earlier hkept helement
    cases elements with
    | nil => cases helement
    | cons first rest =>
      cases helement
      rw [Walk.judgeNavigations_cons, List.getElem?_cons_zero, Option.some_inj, List.take_zero,
        List.append_nil]
      exact judge_eq_iff hkept
  | succ i ih =>
    intro elements kept earlier hkept helement
    cases elements with
    | nil => cases helement
    | cons first rest =>
      rw [Walk.judgeNavigations_cons, List.getElem?_cons_succ, List.take_succ_cons,
        List.append_cons]
      refine ih (fun name => ?_) helement
      rw [List.mem_append, hkept, keepsName_concat]

theorem length_judgeNavigations (associations? : Option Associations) (kept : List String)
    (elements : List Element) :
    (judgeNavigations associations? kept elements).length = elements.length := by
  induction elements generalizing kept with
  | nil => rfl
  | cons element rest ih =>
    rw [Walk.judgeNavigations_cons, List.length_cons, ih, List.length_cons]

end Due

/-! ## The account of a type -/

namespace NavigationReading

def isUnnamed : NavigationReading → Bool
  | .unnamed => true
  | _ => false

def isRepeated : NavigationReading → Bool
  | .repeated _ => true
  | _ => false

/-- Verdicts are of four kinds. -/
theorem length_eq : ∀ verdicts : List NavigationReading,
    verdicts.length = verdicts.countP isUnnamed + verdicts.countP isRepeated +
      (verdicts.filterMap kept?).length + verdicts.countP isDropped
  | [] => rfl
  | verdict :: rest => by
    have ih := length_eq rest
    cases verdict <;>
      simp only [List.length_cons, List.countP_cons, List.filterMap_cons, isUnnamed, isRepeated,
        isDropped, kept?, if_true, Bool.false_eq_true, if_false] <;>
      omega

end NavigationReading

/-! ### Which names are taken -/

section Taken

variable {elements : List Element} {verdicts : List NavigationReading}

theorem mem_take_iff_getElem? {α : Type} {items : List α} {item : α} {i : Nat} :
    item ∈ items.take i ↔ ∃ j < i, items[j]? = some item := by
  rw [List.mem_iff_getElem?]
  refine exists_congr fun j => ?_
  rw [List.getElem?_take]
  split
  · next hj => exact (and_iff_right hj).symm
  · next hj => exact iff_of_false nofun fun h => hj h.1

theorem exists_getElem?_eq_some {α β : Type} {items : List α} {others : List β} {item : α}
    {j : Nat} (hlength : items.length = others.length) (h : items[j]? = some item) :
    ∃ other, others[j]? = some other := by
  obtain ⟨hj, -⟩ := List.getElem?_eq_some_iff.mp h
  exact ⟨_, List.getElem?_eq_getElem (hlength ▸ hj)⟩

/-- Where each element has the verdict that is due, a name is taken exactly if an earlier element of
the name gives a type: if that one is not kept itself, one before it is. -/
theorem keepsName_take_iff (hlength : verdicts.length = elements.length)
    (hdue : ∀ (i : Nat) (child : Element), elements[i]? = some child →
      ∀ verdict, verdicts[i]? = some verdict ↔ Due associations? (verdicts.take i) child verdict)
    (i : Nat) {name : String} (hname : name ≠ "") :
    KeepsName (verdicts.take i) name ↔
      ∃ earlier ∈ elements.take i, earlier.getText "Name" = name ∧
        ∃ type, GivesType associations? earlier type := by
  constructor
  · rintro ⟨navigation, hkept, rfl⟩
    obtain ⟨j, hj, hverdict⟩ := mem_take_iff_getElem?.mp hkept
    obtain ⟨earlier, hearlier⟩ := exists_getElem?_eq_some hlength hverdict
    cases (hdue j earlier hearlier _).mp hverdict with
    | kept _ _ typed =>
      exact ⟨earlier, mem_take_iff_getElem?.mpr ⟨j, hj, hearlier⟩, rfl, _, typed⟩
  · rintro ⟨earlier, hmem, rfl, type, htype⟩
    obtain ⟨j, hj, hearlier⟩ := mem_take_iff_getElem?.mp hmem
    obtain ⟨verdict, hverdict⟩ := exists_getElem?_eq_some hlength.symm hearlier
    cases (hdue j earlier hearlier verdict).mp hverdict with
    | unnamed nameless => exact absurd nameless hname
    | repeated _ taken => exact taken.mono (List.take_subset_take_left verdicts (Nat.le_of_lt hj))
    | kept _ _ _ => exact ⟨_, mem_take_iff_getElem?.mpr ⟨j, hj, hverdict⟩, rfl⟩
    | unresolved _ _ untyped => exact absurd htype (untyped type)

end Taken

/-! ### The account -/

/-- A type that was read accounts for the navigation elements of its type element: it has a verdict
on each of them, the one that is due, and the four kinds of verdicts make up the whole. -/
structure TypeReading.AccountsFor (read : TypeReading) (associations? : Option Associations)
    (element : Element) : Prop where
  name_eq : read.name = element.getText "Name"
  length_eq : read.navigations.length = (childrenNamed "NavigationProperty" element).length
  verdict_iff : ∀ (i : Nat) (child : Element),
    (childrenNamed "NavigationProperty" element)[i]? = some child →
      ∀ verdict, read.navigations[i]? = some verdict ↔
        Due associations? (read.navigations.take i) child verdict
  /-- What is dropped leaves its name free. -/
  taken_iff : ∀ (i : Nat) (name : String), name ≠ "" →
    (KeepsName (read.navigations.take i) name ↔
      ∃ earlier ∈ (childrenNamed "NavigationProperty" element).take i,
        earlier.getText "Name" = name ∧ ∃ type, GivesType associations? earlier type)
  kept_eq : read.entityType.navigations = read.navigations.filterMap NavigationReading.kept?
  kept_distinct : (read.entityType.navigations.map (·.name)).Nodup
  balance : (childrenNamed "NavigationProperty" element).length =
    read.navigations.countP NavigationReading.isUnnamed +
      read.navigations.countP NavigationReading.isRepeated +
      read.entityType.navigations.length + read.droppedCount

/-- **A type accounts for every navigation of its element.** -/
theorem TypeReading.accountsFor {namespaceName : String} {read : TypeReading}
    (h : TypeReading.ofElement? associations? namespaceName element = some read) :
    read.AccountsFor associations? element := by
  rw [TypeReading.ofElement?] at h
  split at h
  · cases h
  · cases h
    have hlength : (readNavigations associations? element).length =
        (childrenNamed "NavigationProperty" element).length := length_judgeNavigations _ _ _
    have hdue : ∀ (i : Nat) (child : Element),
        (childrenNamed "NavigationProperty" element)[i]? = some child →
          ∀ verdict, (readNavigations associations? element)[i]? = some verdict ↔
            Due associations? ((readNavigations associations? element).take i) child verdict :=
      fun i child hchild verdict => getElem?_judgeNavigations_eq_some_iff i
        (fun name => iff_of_false List.not_mem_nil (not_keepsName_nil name)) hchild
    refine ⟨rfl, hlength, hdue, fun i name hname => keepsName_take_iff hlength hdue i hname, rfl,
      ?_, ?_⟩
    · show (((readNavigations associations? element).filterMap _).map _).Nodup
      rw [readNavigations, filterMap_judgeNavigations]
      exact nodup_firstOfEach Navigation.name _ _
    · exact hlength.symm.trans (NavigationReading.length_eq _)

/-- Of the elements whose name is there and not taken, those are dropped that have no type or a
blank one. -/
def TypeReading.DropsUntyped (read : TypeReading) (element : Element) : Prop :=
  ∀ (i : Nat) (child : Element), (childrenNamed "NavigationProperty" element)[i]? = some child →
    child.getText "Name" ≠ "" → ¬KeepsName (read.navigations.take i) (child.getText "Name") →
    (read.navigations[i]? = some (.unresolved (child.getText "Name")) ↔
      isBlankText (child.getText "Type") = true)

/-- Without associations nothing but a type of its own keeps an element from being dropped. -/
theorem TypeReading.AccountsFor.dropsUntyped {read : TypeReading}
    (h : read.AccountsFor none element) : read.DropsUntyped element := by
  intro i child hchild hnamed hfree
  rw [h.verdict_iff i child hchild, ← not_givesType_none_iff]
  constructor
  · intro hdue
    cases hdue with
    | unresolved _ _ untyped => exact untyped
  · exact fun huntyped => .unresolved hnamed hfree huntyped

/-! ## Documents -/

/-- The type elements that are visited: in each schema those that have a name. -/
def visitedTypes (schemas : List Element) : List Element := schemas.flatMap namedTypeElements

namespace DocumentReading

/-- A document has a type for each type element that is visited, in the same order. -/
theorem forall₂_accountsFor (envelope : Element) (schemas : List Element) :
    List.Forall₂
      (fun element read =>
        TypeReading.AccountsFor read (ofEnvelope envelope schemas).associations? element)
      (visitedTypes schemas) (ofEnvelope envelope schemas).types := by
  rw [types, schemas_ofEnvelope, List.flatMap_map, visitedTypes]
  refine List.rel_flatMap (R := Eq) (List.forall₂_eq_eq_eq ▸ rfl) ?_
  rintro schema _ rfl
  exact (forall₂_namedTypes _ schema).imp fun _ _ h => TypeReading.accountsFor h

/-- A document has associations in the older dialect, those of all its schemas. -/
theorem associations?_ofEnvelope (envelope : Element) (schemas : List Element) :
    (ofEnvelope envelope schemas).associations? =
      if (ofEnvelope envelope schemas).model.isModern then none
      else some (Associations.ofSchemas schemas) := by
  rw [Model.isModern, versions_model, versions_ofEnvelope, ofEnvelope]

end DocumentReading

/-- **Every navigation element is accounted for.** In a document that has a model there is a type
for each type element that is visited, and it accounts for the navigation elements of the type
element, by the associations of the document in the older dialect and without any in the modern one.
The types of the model are the first of each name. Whatever was counted before, a parser then shows
the number of elements that all these types dropped. -/
theorem navigations_accounted {content? : Option String} {model : Model}
    (h : parse content? = .ok model) :
    ∃ root envelope reading, readContent content? = .ok root ∧ findEnvelope root = .ok envelope ∧
      readTree root = .ok reading ∧ reading.model = model ∧
      reading.associations? = (if model.isModern then none
        else some (Associations.ofSchemas (findAll "Schema" envelope))) ∧
      List.Forall₂ (fun element read => TypeReading.AccountsFor read reading.associations? element)
        (visitedTypes (findAll "Schema" envelope)) reading.types ∧
      (model.isModern = true →
        List.Forall₂ (fun element read => TypeReading.DropsUntyped read element)
          (visitedTypes (findAll "Schema" envelope)) reading.types) ∧
      model.types = firstOfEach EntityType.name [] (reading.types.map (·.entityType)) ∧
      ∀ session : Session, session.walk content? =
        (.ok model, ⟨reading.associations?, total (reading.types.map (·.droppedCount))⟩) := by
  obtain ⟨root, reading, hroot, htree, rfl⟩ := parse_eq_ok h
  obtain ⟨envelope, henvelope, -, rfl⟩ := readTree_eq_ok htree
  have haccounts :=
    DocumentReading.forall₂_accountsFor envelope (findAll "Schema" envelope)
  have hassociations :=
    DocumentReading.associations?_ofEnvelope envelope (findAll "Schema" envelope)
  refine ⟨root, envelope, _, hroot, henvelope, htree, rfl, hassociations, haccounts,
    fun hmodern => ?_, DocumentReading.keptTypes_eq _, fun session => ?_⟩
  · rw [hmodern, if_pos rfl] at hassociations
    rw [hassociations] at haccounts
    exact haccounts.imp fun _ _ haccount => haccount.dropsUntyped
  · rw [session.walk_eq_parse, Session.parse, readDocument_eq hroot, htree]
    rfl

/-- A document of the older dialect. Of the navigations of one name in its first type one is
dropped, the next one kept and the last one repeated; another one is kept with the target of an
association. The second type is left out, and its navigation is dropped. -/
def mixedNavigations : String :=
  "<Edmx><Schema><EntityType Name='T'><NavigationProperty Name='N'/><NavigationProperty/>" ++
    "<NavigationProperty Name='N' Type=' B '/><NavigationProperty Name='N'/>" ++
    "<NavigationProperty Name='M' Relationship='L' ToRole='R'/></EntityType>" ++
    "<EntityType Name='T'><NavigationProperty Name='P'/></EntityType>" ++
    "<Association Name='L'><End Role='R' Type='U'/><End Role='S' Type='T'/></Association>" ++
    "</Schema></Edmx>"

/-- The verdicts on the navigations of the two types. -/
def mixedVerdicts : List (List NavigationReading) := [
  [.unresolved "N", .unnamed, .kept ⟨"N", "B", none⟩, .repeated "N", .kept ⟨"M", "U", none⟩],
  [.unresolved "P"]]

theorem navigations_accounted_mixed :
    ∃ (model : Model) (envelope : Element) (reading : DocumentReading),
      parse (some mixedNavigations) = .ok model ∧
      List.Forall₂ (fun element read => TypeReading.AccountsFor read reading.associations? element)
        (visitedTypes (findAll "Schema" envelope)) reading.types ∧
      reading.types.map (·.navigations) = mixedVerdicts ∧
      model.types.map (·.navigations.map (·.type)) = [["B", "U"]] ∧
      ∀ session : Session, (session.walk (some mixedNavigations)).2.dropped = 2 := by
  have hread : (readDocument (some mixedNavigations)).toOption.map (fun reading =>
      (reading.types.map (·.navigations), reading.model.types.map (·.navigations.map (·.type)),
        total (reading.types.map (·.droppedCount)))) =
      some (mixedVerdicts, [["B", "U"]], 2) := by
    decide +kernel
  cases hdocument : readDocument (some mixedNavigations) with
  | error reason =>
    rw [hdocument] at hread
    cases hread
  | ok reading =>
    have hparse : parse (some mixedNavigations) = .ok reading.model := by
      rw [parse, hdocument]
      rfl
    obtain ⟨root, envelope, other, hroot, -, htree, -, -, haccounts, -, -, hwalk⟩ :=
      navigations_accounted hparse
    rw [readDocument_eq hroot, htree] at hdocument
    cases hdocument
    rw [readDocument_eq hroot, htree] at hread
    obtain ⟨hverdicts, hparts⟩ := Prod.mk.inj (Option.some.inj hread)
    obtain ⟨htypes, hdropped⟩ := Prod.mk.inj hparts
    refine ⟨_, envelope, reading, hparse, haccounts, hverdicts, htypes, fun session => ?_⟩
    rw [hwalk session]
    exact hdropped

end ODataExplorer.Csdl
