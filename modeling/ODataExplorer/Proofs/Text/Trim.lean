import Mathlib.Data.List.DropRight
import ODataExplorer.Csdl.TypeName

/-!
Trimmed texts.

A text is trimmed when no blank stands at either end, and trimming makes every text one. A blank
text is one that trimming leaves nothing of, so the two tests for it agree. A reference to a
collection is trimmed whatever stands inside it.
-/

namespace ODataExplorer.Text

/-- No blank stands at either end of the text. -/
def IsTrimmed (s : String) : Prop := trim s = s

instance (s : String) : Decidable (IsTrimmed s) := inferInstanceAs (Decidable (_ = _))

variable {p : Char → Bool} {cs : List Char}

theorem dropEndWhile_eq_rdropWhile (p : Char → Bool) (cs : List Char) :
    dropEndWhile p cs = cs.rdropWhile p := rfl

/-- Nothing is left of a text exactly when all of it is of the class. -/
theorem trimWhile_eq_nil_iff : trimWhile p cs = [] ↔ ∀ c ∈ cs, p c := by
  rw [trimWhile, dropEndWhile_eq_rdropWhile, List.rdropWhile_eq_nil_iff]
  constructor
  · intro h c hc
    rw [← List.takeWhile_append_dropWhile (p := p) (l := cs)] at hc
    rcases List.mem_append.mp hc with hc | hc
    · exact List.mem_takeWhile_imp hc
    · exact h c hc
  · intro h c hc
    exact h c ((List.dropWhile_sublist p).subset hc)

theorem mem_of_mem_dropEndWhile {c : Char} (h : c ∈ dropEndWhile p cs) : c ∈ cs :=
  (List.rdropWhile_prefix p cs).subset h

/-- The last character that is left is not of the class. -/
theorem getLast?_dropEndWhile {c : Char} (h : c ∈ (dropEndWhile p cs).getLast?) : p c = false := by
  rw [dropEndWhile_eq_rdropWhile] at h
  have hne : cs.rdropWhile p ≠ [] := by
    intro hnil
    rw [hnil] at h
    cases h
  have hlast := List.rdropWhile_last_not p cs hne
  rw [List.getLast?_eq_some_getLast hne] at h
  cases h
  exact Bool.eq_false_iff.mpr hlast

theorem dropTrailingSlashes_subset (s : String) :
    (dropTrailingSlashes s).toList ⊆ s.toList := by
  intro c hc
  rw [dropTrailingSlashes, String.toList_ofList] at hc
  exact mem_of_mem_dropEndWhile hc

/-- Nothing is dropped from the end of a text whose last character is not of the class. -/
theorem dropEndWhile_eq_self (h : ∀ c ∈ cs.getLast?, p c = false) : dropEndWhile p cs = cs := by
  rw [dropEndWhile_eq_rdropWhile, List.rdropWhile_eq_self_iff]
  intro hne
  rw [h _ (List.getLast?_eq_some_getLast hne)]
  exact Bool.false_ne_true

/-- A text stays as it is when neither its first nor its last character is of the class. -/
theorem trimWhile_eq_self (first : ∀ c ∈ cs.head?, p c = false)
    (last : ∀ c ∈ cs.getLast?, p c = false) : trimWhile p cs = cs := by
  have hfirst : cs.dropWhile p = cs := by
    cases cs with
    | nil => rfl
    | cons c cs => exact List.dropWhile_cons_of_neg (by rw [first c rfl]; exact Bool.false_ne_true)
  rw [trimWhile, hfirst, dropEndWhile_eq_self last]

/-- The first character that trimming leaves is not of the class. -/
theorem head?_trimWhile {c : Char} (h : c ∈ (trimWhile p cs).head?) : p c = false := by
  rw [trimWhile, dropEndWhile_eq_rdropWhile] at h
  have hhead : c ∈ (cs.dropWhile p).head? := by
    obtain ⟨rest, hrest⟩ := List.rdropWhile_prefix p (l := cs.dropWhile p)
    rw [← hrest, List.head?_append, Option.mem_def.mp h]
    rfl
  have hnot := List.head?_dropWhile_not p cs
  rw [Option.mem_def.mp hhead] at hnot
  exact hnot

/-- Trimming twice is trimming once. -/
theorem trimWhile_trimWhile : trimWhile p (trimWhile p cs) = trimWhile p cs :=
  trimWhile_eq_self (fun _ hc => head?_trimWhile hc) fun _ hc => getLast?_dropEndWhile hc

/-! ### Trimming joined texts -/

variable {before after : List Char}

theorem dropEndWhile_append_of_pos (h : ∀ c ∈ after, p c = true) :
    dropEndWhile p (cs ++ after) = dropEndWhile p cs := by
  have hreverse : ∀ c ∈ after.reverse, p c = true := fun c hc => h c (List.mem_reverse.mp hc)
  rw [dropEndWhile, dropEndWhile, List.reverse_append, List.dropWhile_append_of_pos hreverse]

/-- From behind a character that stays, nothing before it is dropped. -/
theorem dropEndWhile_append {c : Char} (h : p c = false) (cs after : List Char) :
    dropEndWhile p (cs ++ c :: after) = cs ++ c :: dropEndWhile p after := by
  have hstays : ¬p c = true := Bool.eq_false_iff.mp h
  rw [dropEndWhile, dropEndWhile, List.reverse_append, List.reverse_cons, List.append_assoc,
    List.dropWhile_append]
  split
  · next hempty =>
    rw [List.isEmpty_iff.mp hempty, List.singleton_append, List.dropWhile_cons_of_neg hstays,
      List.reverse_cons, List.reverse_reverse]
    rfl
  · rw [List.reverse_append, List.reverse_append, List.reverse_reverse, List.append_assoc]
    rfl

/-- A character that is not of the class stays. -/
theorem mem_dropEndWhile {c : Char} (h : c ∈ cs) (hc : p c = false) : c ∈ dropEndWhile p cs := by
  obtain ⟨before, after, rfl⟩ := List.append_of_mem h
  rw [dropEndWhile_append hc]
  exact List.mem_append_right _ List.mem_cons_self

/-- Trimming drops what was put around a text, and then trims the text. -/
theorem trimWhile_append (hbefore : ∀ c ∈ before, p c = true) (hafter : ∀ c ∈ after, p c = true) :
    trimWhile p (before ++ cs ++ after) = trimWhile p cs := by
  rw [trimWhile, trimWhile, List.append_assoc, List.dropWhile_append_of_pos hbefore,
    List.dropWhile_append]
  split
  · next hempty =>
    rw [List.isEmpty_iff.mp hempty, List.dropWhile_eq_nil_iff.mpr hafter]
  · exact dropEndWhile_append_of_pos hafter

/-- What trimming drops stood around what it leaves. -/
theorem exists_around_trimWhile (p : Char → Bool) (cs : List Char) :
    ∃ before after, (∀ c ∈ before, p c = true) ∧ (∀ c ∈ after, p c = true) ∧
      cs = before ++ trimWhile p cs ++ after := by
  refine ⟨cs.takeWhile p, (cs.dropWhile p).rtakeWhile p, fun c => List.mem_takeWhile_imp,
    fun c => List.mem_rtakeWhile_imp, ?_⟩
  rw [trimWhile, dropEndWhile_eq_rdropWhile, List.append_assoc, List.rdropWhile_append_rtakeWhile,
    List.takeWhile_append_dropWhile]

/-- In front of a character that stays, trimming drops from the beginning; behind it, from the end. -/
theorem trimWhile_append_cons {c : Char} (h : p c = false) (before after : List Char) :
    trimWhile p (before ++ c :: after) =
      before.dropWhile p ++ c :: dropEndWhile p after := by
  rw [trimWhile, List.dropWhile_append]
  split
  · next hempty =>
    rw [List.isEmpty_iff.mp hempty, List.dropWhile_cons_of_neg (Bool.eq_false_iff.mp h)]
    exact dropEndWhile_append h [] after
  · exact dropEndWhile_append h _ after

/-- Trimming makes a text trimmed. -/
theorem isTrimmed_trim (s : String) : IsTrimmed (trim s) := by
  rw [IsTrimmed, trim, trim, String.toList_ofList, trimWhile_trimWhile]

theorem toList_trim (s : String) : (trim s).toList = trimWhile isBlank s.toList :=
  String.toList_ofList

/-- Blanks around a text do not show once it is trimmed. -/
theorem trim_around {before after : String} (hbefore : isBlankText before = true)
    (hafter : isBlankText after = true) (s : String) : trim (before ++ s ++ after) = trim s := by
  rw [trim, String.toList_append, String.toList_append,
    trimWhile_append (List.all_eq_true.mp hbefore) (List.all_eq_true.mp hafter), trim]

/-- A text is what trimming leaves of it, with blanks around. -/
theorem exists_around_trim (s : String) :
    ∃ before after, isBlankText before = true ∧ isBlankText after = true ∧
      s = before ++ trim s ++ after := by
  obtain ⟨before, after, hbefore, hafter, haround⟩ := exists_around_trimWhile isBlank s.toList
  refine ⟨String.ofList before, String.ofList after, ?_, ?_, ?_⟩
  · rwa [isBlankText, String.toList_ofList, List.all_eq_true]
  · rwa [isBlankText, String.toList_ofList, List.all_eq_true]
  · rw [← String.toList_inj, String.toList_append, String.toList_append, String.toList_ofList,
      String.toList_ofList, toList_trim, ← haround]

/-- What trimming leaves is empty exactly when the text is blank. -/
theorem isEmpty_trim (s : String) : (trim s).isEmpty = isBlankText s := by
  have hiff : (trim s).isEmpty = true ↔ isBlankText s = true := by
    rw [String.isEmpty_iff, trim, String.ofList_eq_empty_iff, trimWhile_eq_nil_iff, isBlankText,
      List.all_eq_true]
  exact Bool.eq_iff_iff.mpr hiff

/-- A reference to a collection starts and ends with characters that are not blank. -/
theorem isTrimmed_collectionOf (type : String) : IsTrimmed (Csdl.collectionOf type) := by
  have hshape : (Csdl.collectionOf type).toList =
      'C' :: ("ollection(".toList ++ type.toList ++ [')']) := by
    simp only [Csdl.collectionOf, String.toList_append]
    rfl
  rw [IsTrimmed, trim, hshape, trimWhile_eq_self, ← hshape, String.ofList_toList]
  · intro c hc
    cases hc
    rfl
  · intro c hc
    rw [← List.cons_append, List.getLast?_concat] at hc
    cases hc
    rfl

end ODataExplorer.Text
