import ODataExplorer.Proofs.Url.Form
import ODataExplorer.Query.Compile

/-!
What the URL of a query carries.

No option has an empty value, so a reader of the URL drops none of them; and every value is written
in the characters of a form, so none of them can end its option or begin another one. Main
statement: the URL is that of the set and a query from which a reader gets the options back, neither
more nor less (`compile_url_readFields?`).
-/

namespace ODataExplorer.Query

open Text

/-! ## Options have values -/

theorem append_ne_empty {s : String} (h : s ≠ "") (t : String) : t ++ s ≠ "" := fun hempty =>
  h (String.append_eq_empty_iff.mp hempty).2

theorem natText_ne_empty (n : Nat) : toString n ≠ "" := by
  intro hempty
  have hdigits : Nat.toDigits 10 n = [] := String.ofList_eq_empty_iff.mp hempty
  exact Nat.toDigits_ne_nil hdigits

theorem integerText_ne_empty (n : Int) : toString n ≠ "" := by
  cases n with
  | ofNat n => exact natText_ne_empty n
  | negSucc n => exact append_ne_empty (natText_ne_empty (n + 1)) "-"

variable {option : String × String} {name value : String}

theorem value_of_mem_textOption (h : option ∈ textOption name value) : option.2 ≠ "" := by
  rw [textOption] at h
  split at h
  · cases h
  · next hvalue =>
    rw [List.mem_singleton.mp h]
    exact fun hempty => hvalue (String.isEmpty_iff.mpr hempty)

theorem value_of_mem_numberOption {number? : Option Int} (h : option ∈ numberOption name number?) :
    option.2 ≠ "" := by
  cases number? with
  | none => cases h
  | some n =>
    rw [List.mem_singleton.mp h]
    exact integerText_ne_empty n

theorem value_countOption (version? : Option String) : (countOption version?).2 ≠ "" := by
  rw [countOption]
  split
  · exact by decide
  · exact by decide

/-- **Every option has a value.** -/
theorem Selection.value_of_mem_options {selection : Selection} {version? : Option String}
    {declared? : Option (List String)} (h : option ∈ selection.options version? declared?) :
    option.2 ≠ "" := by
  simp only [options, List.mem_append] at h
  rcases h with (((((h | h) | h) | h) | h) | h) | h
  · exact value_of_mem_textOption h
  · exact value_of_mem_textOption h
  · exact value_of_mem_textOption h
  · split at h
    · split at h
      · cases h
      · next order _ =>
        rw [List.mem_singleton.mp h]
        refine append_ne_empty ?_ _
        cases selection.direction <;> decide
    · cases h
  · exact value_of_mem_numberOption h
  · exact value_of_mem_numberOption h
  · split at h
    · rw [List.mem_singleton.mp h]
      exact value_countOption version?
    · cases h

/-! ## URLs -/

/-- What is written behind the URL of a set. -/
def writtenOptions (options : List (String × String)) : List Char :=
  if options = [] then [] else '?' :: Url.Form.encodeFields options

/-- The characters of the URL of a query. -/
theorem toList_url (serviceRoot : String) (selection : Selection) (version? : Option String)
    (declared? : Option (List String)) :
    (compile serviceRoot selection version? declared?).url.toList =
      (dropTrailingSlashes serviceRoot).toList ++
        '/' :: (selection.set.toList ++ writtenOptions (selection.options version? declared?)) := by
  have hbase : (selection.base serviceRoot).toList =
      (dropTrailingSlashes serviceRoot).toList ++ '/' :: selection.set.toList := by
    simp [Selection.base]
  simp only [compile, List.isEmpty_iff, Url.Form.encodeFields_eq_nil_iff, writtenOptions]
  split
  · rw [hbase, List.append_nil]
  · simp [hbase]

/-- **The URL of a query carries its options and nothing else.** It is the URL of the set and, if
there are options, a query. The query is written with the characters of a form, and who reads it
finds the options: the same names with the same values, in the same order. -/
theorem compile_url_readFields? (serviceRoot : String) (selection : Selection)
    (version? : Option String) (declared? : Option (List String)) :
    ∃ query : List Char,
      (compile serviceRoot selection version? declared?).url =
        dropTrailingSlashes serviceRoot ++ "/" ++ selection.set ++
          (if selection.options version? declared? = [] then "" else "?" ++ String.ofList query) ∧
      (∀ c ∈ query, Url.Form.isFormChar c = true) ∧
      Url.Form.readFields? query = some (selection.options version? declared?) := by
  refine ⟨Url.Form.encodeFields (selection.options version? declared?), ?_,
    fun c hc => Url.Form.isFormChar_of_mem_encodeFields hc,
    Url.Form.readFields?_encodeFields fun option hoption => Selection.value_of_mem_options hoption⟩
  simp only [compile, Selection.base, List.isEmpty_iff, Url.Form.encodeFields_eq_nil_iff]
  split
  · rw [String.append_empty]
  · exact String.append_assoc

end ODataExplorer.Query
