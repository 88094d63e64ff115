import ODataExplorer.Service.Failure

/-!
What exceptions are reported as.

The classes are asked for in an order, and a class may derive from one that is asked for. A derived
class is of the plain classes that its base is of (`isA_derived`), so that no class is of two
categories, and no class of client errors is one of the other classes that are asked for. The order
does not matter to a client error, then: it stands for one kind of failure (`Raised.StandsFor`) and
is reported as that one (`Failure.of_standsFor`).
-/

namespace ODataExplorer.Service

/-! ## Classes -/

namespace ErrorClass

variable {own other : ErrorClass}

/-- A class is plain if it does not derive from another one under a name of its own. -/
def IsPlain (errorClass : ErrorClass) : Prop := ∀ name base, errorClass ≠ .derived name base

theorem isPlain_client : client.IsPlain := fun _ _ h => by cases h

theorem isPlain_structural : structural.IsPlain := fun _ _ h => by cases h

theorem isPlain_serviceUrl : serviceUrl.IsPlain := fun _ _ h => by cases h

theorem isPlain_ofCategory (category : Fetch.Category) : (ofCategory category).IsPlain := by
  cases category <;> exact fun _ _ h => by cases h

theorem isA_derived (h : other.IsPlain) (name : String) (base : ErrorClass) :
    (derived name base).isA other = base.isA other := by
  have hne : (derived name base == other) = false := beq_eq_false_iff_ne.mpr (h name base).symm
  rw [isA, hne, Bool.false_or, bases, List.contains_cons, isA, Bool.beq_comm]

/-- A class of failures of a category is one of client errors. -/
theorem isA_client_of_category (category : Fetch.Category)
    (h : own.isA (.ofCategory category) = true) : own.isA .client = true := by
  induction own with
  | derived name base ih =>
    rw [isA_derived (isPlain_ofCategory category)] at h
    rw [isA_derived isPlain_client]
    exact ih h
  | client | unreachable | notMetadata | invalidPayload => rfl
  | structural | serviceUrl | other => cases category <;> cases h

/-- A class is of one category at most. -/
theorem category_unique {category category' : Fetch.Category}
    (h : own.isA (.ofCategory category) = true) (h' : own.isA (.ofCategory category') = true) :
    category = category' := by
  induction own with
  | derived name base ih =>
    rw [isA_derived (isPlain_ofCategory _)] at h h'
    exact ih h h'
  | client | unreachable | notMetadata | invalidPayload | structural | serviceUrl | other =>
    cases category <;> cases h <;> cases category' <;> cases h' <;> rfl

/-- Classes of client errors are none of the other classes that are asked for. -/
theorem not_isA_of_client (h : own.isA .client = true) :
    own.isA .structural = false ∧ own.isA .serviceUrl = false := by
  induction own with
  | derived name base ih =>
    rw [isA_derived isPlain_client] at h
    rw [isA_derived isPlain_structural, isA_derived isPlain_serviceUrl]
    exact ih h
  | client | unreachable | notMetadata | invalidPayload => exact ⟨rfl, rfl⟩
  | structural | serviceUrl | other => cases h

end ErrorClass

/-! ## Client errors -/

/-- The kind of failure that an exception of a client stands for: the kind of its category, or a
service that could not be reached if it is of none. -/
inductive Raised.StandsFor (raised : Raised) : Kind → Prop
  | unreachable (h : raised.isA .unreachable = true) : StandsFor raised .unreachable
  | notMetadata (h : raised.isA .notMetadata = true) : StandsFor raised .notMetadata
  | invalidPayload (h : raised.isA .invalidPayload = true) : StandsFor raised .invalidPayload
  | unspecified (hclient : raised.isA .client = true)
    (hnone : ∀ category, raised.isA (.ofCategory category) = false) :
    StandsFor raised .unreachable

variable {raised : Raised} {kind kind' : Kind}

/-- An exception of a category is of no other one. -/
theorem Raised.not_isA (category other : Fetch.Category) (hne : category ≠ other)
    (h : raised.isA (.ofCategory category) = true) : raised.isA (.ofCategory other) = false :=
  Bool.eq_false_iff.mpr fun hother => hne (ErrorClass.category_unique h hother)

theorem Raised.StandsFor.isA_client (h : raised.StandsFor kind) : raised.isA .client = true := by
  cases h with
  | unreachable h => exact ErrorClass.isA_client_of_category .unreachable h
  | notMetadata h => exact ErrorClass.isA_client_of_category .notMetadata h
  | invalidPayload h => exact ErrorClass.isA_client_of_category .invalidPayload h
  | unspecified hclient => exact hclient

/-- A client error stands for some kind of failure. -/
theorem Raised.exists_standsFor (h : raised.isA .client = true) :
    ∃ kind, raised.StandsFor kind := by
  by_cases hnone : ∀ category, raised.isA (.ofCategory category) = false
  · exact ⟨_, .unspecified h hnone⟩
  · obtain ⟨category, hcategory⟩ := Classical.not_forall.mp hnone
    rw [Bool.not_eq_false] at hcategory
    cases category with
    | unreachable => exact ⟨_, .unreachable hcategory⟩
    | notMetadata => exact ⟨_, .notMetadata hcategory⟩
    | invalidPayload => exact ⟨_, .invalidPayload hcategory⟩

/-- **A client error is reported as the kind of failure that it stands for.** -/
theorem Failure.of_standsFor (h : raised.StandsFor kind) :
    Failure.of raised = ⟨kind, raised.message⟩ := by
  obtain ⟨hstructural, hurl⟩ := ErrorClass.not_isA_of_client h.isA_client
  change raised.isA .structural = false at hstructural
  change raised.isA .serviceUrl = false at hurl
  rw [Failure.of]
  cases h with
  | unreachable h => rw [if_pos h]
  | notMetadata h =>
    have hunreachable : raised.isA .unreachable = false :=
      Raised.not_isA .notMetadata .unreachable nofun h
    rw [hunreachable, if_neg Bool.false_ne_true, h, Bool.true_or, if_pos rfl]
  | invalidPayload h =>
    have hunreachable : raised.isA .unreachable = false :=
      Raised.not_isA .invalidPayload .unreachable nofun h
    have hnotMetadata : raised.isA .notMetadata = false :=
      Raised.not_isA .invalidPayload .notMetadata nofun h
    simp only [hunreachable, hnotMetadata, hstructural, hurl, h, Bool.or_false, Bool.false_eq_true,
      if_false, if_true]
  | unspecified hclient hnone =>
    have hunreachable : raised.isA .unreachable = false := hnone .unreachable
    have hnotMetadata : raised.isA .notMetadata = false := hnone .notMetadata
    have hinvalidPayload : raised.isA .invalidPayload = false := hnone .invalidPayload
    simp only [hunreachable, hnotMetadata, hinvalidPayload, hstructural, hurl, hclient,
      Bool.or_false, Bool.false_eq_true, if_false, if_true]

/-- It stands for one kind only. -/
theorem Raised.StandsFor.unique (h : raised.StandsFor kind) (h' : raised.StandsFor kind') :
    kind = kind' := by
  have hsame := (Failure.of_standsFor h).symm.trans (Failure.of_standsFor h')
  cases hsame
  rfl

/-! ## Problems -/

/-- The problem of a fetch that fails with a client error is reported. -/
theorem Problem.ofFetch_standsFor (h : raised.StandsFor kind) :
    Problem.ofFetch raised = .reported ⟨kind, raised.message⟩ := by
  rw [Problem.ofFetch, catching, h.isA_client, if_pos rfl, Failure.of_standsFor h]

/-- What the client of this library raises is a client error exactly if it is of a category. -/
theorem Raised.isA_client_ofFetch (reason : Fetch.Failure) :
    (Raised.ofFetch reason).isA .client = reason.category?.isSome := by
  rw [Raised.ofFetch]
  cases reason.category? with
  | none => rfl
  | some category => cases category <;> rfl

/-- The problem of a document is reported exactly if something is wrong with its structure. -/
theorem Problem.ofDocument_eq (fault : Csdl.DocumentFault) :
    Problem.ofDocument fault =
      match fault with
      | .structural reason => .reported ⟨.notMetadata, reason.message⟩
      | .halved _ | .tooDeep => .raised (.ofDocument fault) := by
  cases fault <;> rfl

end ODataExplorer.Service
