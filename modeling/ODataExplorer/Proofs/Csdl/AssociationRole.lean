import ODataExplorer.Proofs.Csdl.AssociationScan

/-!
What a role resolves to.

An association keeps one target for each role. Where its two ends have different roles, a role
stands for one end, and the target is the type of that end with its own multiplicity. Where they
share a role, the later end takes the place of the earlier one: the role still has a target, and
nothing tells that there were two. `RoleLeadsTo` says both, and main statement is that every answer
is one of them and every one of them is the answer (`roles_resolved`).

Whether the ends can be told apart by role does not decide whether an association is used. The
tables keep exactly the usable ones, by either name, and so roles are unambiguous exactly where every
association that a relationship picks has two roles (`RolesUnambiguous`). An association of a type
with itself whose ends share a role shows that this cannot be left out (`role_shared`).
-/

namespace ODataExplorer.Csdl

open Xml Text

variable {schemas : List Element} {met : MetAssociation} {element : Element}
  {relationship role target : String}

/-! ## Asking the picked association -/

theorem isUsable_of_pick? (h : pick? relationship schemas = some met) :
    isUsableAssociation met.element = true := by
  have hmem : met ∈ usableAssociations schemas := by
    rcases Option.or_eq_some_iff.mp h with hfound | ⟨-, hfound⟩
    · exact List.mem_of_find?_eq_some hfound
    · exact List.mem_of_find?_eq_some hfound
  exact (List.mem_filter.mp hmem).2

/-- The empty text is the name of no association. -/
theorem ne_empty_of_pick? (h : pick? relationship schemas = some met) : relationship ≠ "" := by
  rintro rfl
  have hnamed : met.element.getText "Name" ≠ "" :=
    String.isEmpty_eq_false_iff.mp (isUsableAssociation_iff.mp (isUsable_of_pick? h)).1
  rcases Option.or_eq_some_iff.mp h with hfound | ⟨-, hfound⟩
  · have hfull := List.find?_some hfound
    simp only [MetAssociation.hasFullName, List.any_cons, List.any_nil, Bool.or_false,
      Bool.or_eq_true, Bool.and_eq_true, beq_iff_eq, String.append_eq_empty_iff] at hfull
    rcases hfull with ⟨-, -, hempty⟩ | ⟨-, -, hempty⟩
    · exact hnamed hempty
    · exact hnamed hempty
  · have hname := List.find?_some hfound
    exact hnamed (eq_of_beq hname)

/-- A usable association has a role for each of its ends, and none that is empty. -/
theorem roleType?_empty (h : isUsableAssociation element = true) : roleType? "" element = none := by
  rw [roleType?, Option.map_eq_none_iff, List.find?_eq_none]
  intro side hside hempty
  have husable := isUsableEnd_of_mem h (List.mem_reverse.mp hside)
  rw [isUsableEnd, eq_of_beq hempty] at husable
  exact Bool.false_ne_true husable

/-- A relationship that picks an association asks it, and no other. -/
theorem resolve?_of_pick? (hne : relationship ≠ "") (h : pick? relationship schemas = some met) :
    (Associations.ofSchemas schemas).resolve? relationship role = roleType? role met.element := by
  have husable := isUsable_of_pick? h
  obtain ⟨association, hsome, htarget⟩ := usable?_of_isUsable husable
  rw [Associations.resolve?, Associations.find?_ofSchemas, h, Option.bind_some, Associations.read?,
    hsome, Option.map_some, Option.bind_some, htarget, String.isEmpty_eq_false_iff.mpr hne,
    Bool.false_or]
  split
  · next hempty => rw [String.isEmpty_iff.mp hempty, roleType?_empty husable]
  · rfl

/-- What is resolved was answered by an association that the relationship picks. -/
theorem resolve?_eq_some_iff :
    (Associations.ofSchemas schemas).resolve? relationship role = some target ↔
      ∃ met, pick? relationship schemas = some met ∧ roleType? role met.element = some target := by
  constructor
  · intro h
    cases hpick : pick? relationship schemas with
    | none =>
      rw [Associations.resolve?, Associations.find?_ofSchemas, hpick, Option.bind_none,
        Option.bind_none, ite_self] at h
      cases h
    | some met =>
      rw [resolve?_of_pick? (ne_empty_of_pick? hpick) hpick] at h
      exact ⟨met, rfl, h⟩
  · rintro ⟨met, hpick, htarget⟩
    rw [resolve?_of_pick? (ne_empty_of_pick? hpick) hpick, htarget]

/-! ## Roles of two ends -/

/-- An association with two ends leads from a role to a target. -/
inductive RoleLeadsTo (element : Element) (role : String) : String → Prop
  /-- One end has the role and the other one has not. -/
  | toldApart {side other : Element}
    (ends : childrenNamed "End" element = [side, other] ∨
      childrenNamed "End" element = [other, side])
    (side_role : side.getText "Role" = role) (other_role : other.getText "Role" ≠ role) :
    RoleLeadsTo element role (endType side)
  /-- Both ends have the role, and the later one counts. -/
  | shared {first second : Element} (ends : childrenNamed "End" element = [first, second])
    (first_role : first.getText "Role" = role) (second_role : second.getText "Role" = role) :
    RoleLeadsTo element role (endType second)

/-- The type for a role is found by the roles of the two ends. -/
theorem roleType?_eq_some_iff {first second : Element}
    (hends : childrenNamed "End" element = [first, second]) :
    roleType? role element = some target ↔ RoleLeadsTo element role target := by
  rw [roleType?, hends, List.reverse_cons, List.reverse_singleton, List.singleton_append,
    List.find?_cons, List.find?_singleton]
  constructor
  · intro h
    split at h
    · next hsecond =>
      obtain rfl := Option.some.inj h
      by_cases hfirst : first.getText "Role" = role
      · exact .shared hends hfirst (eq_of_beq hsecond)
      · exact .toldApart (.inr hends) (eq_of_beq hsecond) hfirst
    · next hsecond =>
      split at h
      · next hfirst =>
        obtain rfl := Option.some.inj h
        exact .toldApart (.inl hends) (eq_of_beq hfirst) (beq_eq_false_iff_ne.mp hsecond)
      · cases h
  · intro h
    cases h with
    | toldApart ends hside hother =>
      rw [hends] at ends
      rcases ends with ends | ends
      · cases ends
        rw [beq_eq_false_iff_ne.mpr hother, beq_iff_eq.mpr hside]
        rfl
      · cases ends
        rw [beq_iff_eq.mpr hside]
        rfl
    | shared ends _ hsecond =>
      rw [hends] at ends
      cases ends
      rw [beq_iff_eq.mpr hsecond]
      rfl

theorem exists_ends_of_pick? (h : pick? relationship schemas = some met) :
    ∃ first second, childrenNamed "End" met.element = [first, second] := by
  obtain ⟨-, first, second, hends, -⟩ := isUsableAssociation_iff.mp (isUsable_of_pick? h)
  exact ⟨first, second, hends⟩

/-! ## What the tables keep -/

/-- The usable associations, and no others, are found in the tables under their names. -/
theorem isSome_lookup_ofSchemas (key : String) :
    (((Associations.ofSchemas schemas).qualified.lookup key).isSome ↔
        ∃ met ∈ usableAssociations schemas, met.hasFullName key = true) ∧
      (((Associations.ofSchemas schemas).bare.lookup key).isSome ↔
        ∃ met ∈ usableAssociations schemas, met.hasName key = true) := by
  have hfound : ∀ isNamed : MetAssociation → Bool,
      (((usableAssociations schemas).find? isNamed).bind Associations.read?).isSome ↔
        ∃ met ∈ usableAssociations schemas, isNamed met = true := by
    intro isNamed
    rw [← List.find?_isSome]
    cases hfind : (usableAssociations schemas).find? isNamed with
    | none => rfl
    | some met =>
      obtain ⟨association, hread, -⟩ := Associations.read?_of_find? hfind
      rw [Option.bind_some, hread]
      rfl
  obtain ⟨hqualified, hbare⟩ := Associations.lookup_ofSchemas schemas key
  rw [hqualified, hbare]
  exact ⟨hfound _, hfound _⟩

/-! ## Answers -/

/-- The two ends of an association have different roles. -/
def HasTwoRoles (element : Element) : Prop :=
  ((childrenNamed "End" element).map (·.getText "Role")).Nodup

/-- Whatever is resolved is the type of the one end that has the role, of an association whose two
ends have different roles. -/
def RolesUnambiguous (schemas : List Element) : Prop :=
  ∀ relationship role target,
    (Associations.ofSchemas schemas).resolve? relationship role = some target →
      ∃ met side other, pick? relationship schemas = some met ∧
        (childrenNamed "End" met.element = [side, other] ∨
          childrenNamed "End" met.element = [other, side]) ∧
        side.getText "Role" = role ∧ other.getText "Role" ≠ role ∧ target = endType side

theorem hasTwoRoles_iff {first second : Element}
    (hends : childrenNamed "End" element = [first, second]) :
    HasTwoRoles element ↔ first.getText "Role" ≠ second.getText "Role" := by
  simp [HasTwoRoles, hends]

/-- What a relationship picks is asked for every role. -/
theorem resolve?_eq_some_iff_roleLeadsTo :
    (Associations.ofSchemas schemas).resolve? relationship role = some target ↔
      ∃ met, pick? relationship schemas = some met ∧ RoleLeadsTo met.element role target := by
  rw [resolve?_eq_some_iff]
  refine exists_congr fun met => and_congr_right fun hpick => ?_
  obtain ⟨first, second, hends⟩ := exists_ends_of_pick? hpick
  exact roleType?_eq_some_iff hends

/-- **What a role resolves to is the type of an end with the role,** of the association that the
relationship picks. It is the only such end if the two ends have different roles, and the later one
if they share it. The tables keep every usable association whatever the roles of its ends, so roles
are unambiguous exactly if no association that can be picked has a role twice. -/
theorem roles_resolved (schemas : List Element) :
    (∀ (relationship? role? : Option String) (target : String),
      (Associations.ofSchemas schemas).resolve? (relationship?.getD "") (role?.getD "") =
          some target ↔
        ∃ met, pick? (relationship?.getD "") schemas = some met ∧
          RoleLeadsTo met.element (role?.getD "") target) ∧
      (∀ key, (((Associations.ofSchemas schemas).qualified.lookup key).isSome ↔
          ∃ met ∈ usableAssociations schemas, met.hasFullName key = true) ∧
        (((Associations.ofSchemas schemas).bare.lookup key).isSome ↔
          ∃ met ∈ usableAssociations schemas, met.hasName key = true)) ∧
      (RolesUnambiguous schemas ↔
        ∀ relationship met, pick? relationship schemas = some met → HasTwoRoles met.element) := by
  refine ⟨fun _ _ _ => resolve?_eq_some_iff_roleLeadsTo, isSome_lookup_ofSchemas, ?_, ?_⟩
  · intro hunambiguous relationship met hpick
    obtain ⟨first, second, hends⟩ := exists_ends_of_pick? hpick
    rw [hasTwoRoles_iff hends]
    intro hshared
    -- the shared role is answered, but both ends have it
    obtain ⟨met', side, other, hpick', hends', -, hother, -⟩ :=
      hunambiguous relationship (first.getText "Role") (endType second)
        (resolve?_eq_some_iff_roleLeadsTo.mpr
          ⟨met, hpick, .shared hends rfl hshared.symm⟩)
    rw [Option.some.inj (hpick'.symm.trans hpick), hends] at hends'
    rcases hends' with hends' | hends'
    · cases hends'
      exact hother hshared.symm
    · cases hends'
      exact hother rfl
  · intro hroles relationship role target hresolve
    obtain ⟨met, hpick, hleads⟩ := resolve?_eq_some_iff_roleLeadsTo.mp hresolve
    cases hleads with
    | @toldApart side other ends side_role other_role =>
      exact ⟨met, side, other, hpick, ends, side_role, other_role, rfl⟩
    | shared ends first_role second_role =>
      have htwo := hroles relationship met hpick
      rw [hasTwoRoles_iff ends, first_role, second_role] at htwo
      exact absurd rfl htwo

/-- An association of items with items, both of whose ends are called the same. -/
def itemLink : Element :=
  .node "Association" [("Name", "Link")] [
    .node "End" [("Role", "Item"), ("Type", "A.Item"), ("Multiplicity", "1")] [],
    .node "End" [("Role", "Item"), ("Type", "A.Item"), ("Multiplicity", "*")] []]

/-- The association is used, and its role leads to many, though one of its ends leads to one. -/
theorem role_shared :
    ¬RolesUnambiguous [.node "Schema" [("Namespace", "A")] [itemLink]] := by
  intro hunambiguous
  obtain ⟨met, side, other, hpick, hends, -, hother, -⟩ :=
    hunambiguous "A.Link" "Item" "Collection(A.Item)" (by decide)
  have hlink : met.element = itemLink :=
    congrArg MetAssociation.element (Option.some.inj (hpick.symm.trans rfl))
  have hroles : ∀ element ∈ childrenNamed "End" itemLink, element.getText "Role" = "Item" := by
    decide
  refine hother (hroles other ?_)
  rw [← hlink]
  rcases hends with hends | hends <;> simp [hends]

end ODataExplorer.Csdl
