import ODataExplorer.Proofs.Text.Trim
import ODataExplorer.Proofs.Url.Form
import ODataExplorer.Query.Compile

/-!
The URL of a query as people read it.

The shown URL is the URL with its form encoding undone, and if the bytes that come out are no text,
it is the URL itself. Undoing goes over the whole URL, so also over the service root and the set,
which were never encoded: a per cent sign or a plus sign in them would be taken for one of the
encoding. Without these two signs they stand for themselves, and every option stands for what was
encoded (`Url.Form.StandsFor`). What stands for a text is read as that text whatever is written
around it, so no pair of neighbours can make bytes that are no text.

Main statement: where the service root and the set have neither sign, the shown URL is the URL of
the set and the options as they are (`displayUrl_verbatim`).
-/

namespace ODataExplorer.Query

open Text

/-- A text without the two signs of form encoding. -/
def IsSignFree (s : String) : Prop := '%' ∉ s.toList ∧ '+' ∉ s.toList

instance (s : String) : Decidable (IsSignFree s) := inferInstanceAs (Decidable (_ ∧ _))

variable {serviceRoot : String} {selection : Selection}

theorem IsSignFree.standsFor_self {s : String} (h : IsSignFree s) :
    Url.Form.StandsFor s.toList s.toList :=
  Url.Form.standsFor_self h.1 h.2

theorem IsSignFree.dropTrailingSlashes {s : String} (h : IsSignFree s) :
    IsSignFree (dropTrailingSlashes s) :=
  ⟨fun hmem => h.1 (dropTrailingSlashes_subset s hmem),
    fun hmem => h.2 (dropTrailingSlashes_subset s hmem)⟩

/-- The URL of the set of a selection stands for itself. -/
theorem standsFor_base (hroot : IsSignFree serviceRoot) (hset : IsSignFree selection.set) :
    Url.Form.StandsFor (selection.base serviceRoot).toList (selection.base serviceRoot).toList := by
  have hslash : Url.Form.StandsFor ['/'] ['/'] :=
    Url.Form.standsFor_self (by decide) (by decide)
  rw [Selection.base, String.toList_append, String.toList_append]
  exact (hroot.dropTrailingSlashes.standsFor_self.append hslash).append hset.standsFor_self

/-- What is shown of options: names and values as they are. -/
def shownOptions (options : List (String × String)) : String :=
  joined "&" (options.map fun option => option.1 ++ "=" ++ option.2)

theorem toList_shownOptions (options : List (String × String)) :
    (shownOptions options).toList = Url.Form.shownFields options := by
  have hfield : ∀ option : String × String,
      (option.1 ++ "=" ++ option.2).toList = Url.Form.shownField option := by
    intro option
    rw [String.toList_append, String.toList_append, List.append_assoc]
    rfl
  rw [shownOptions, joined, String.toList_ofList, List.map_map, Url.Form.shownFields]
  exact congrArg (joinWith _) (List.map_congr_left fun option _ => hfield option)

/-- The URL of a query, with the options as they are, is what the written URL stands for. -/
theorem standsFor_url (hroot : IsSignFree serviceRoot) (hset : IsSignFree selection.set)
    (version? : Option String) (declared? : Option (List String)) :
    Url.Form.StandsFor (compile serviceRoot selection version? declared?).url.toList
      (selection.base serviceRoot ++
        (if selection.options version? declared? = [] then ""
          else "?" ++ shownOptions (selection.options version? declared?))).toList := by
  have hbase := standsFor_base hroot hset
  simp only [compile, List.isEmpty_iff, Url.Form.encodeFields_eq_nil_iff]
  by_cases hnone : selection.options version? declared? = []
  · rw [if_pos hnone, if_pos hnone, String.append_empty]
    exact hbase
  · have hmark : Url.Form.StandsFor ['?'] ['?'] :=
      Url.Form.standsFor_self (by decide) (by decide)
    rw [if_neg hnone, if_neg hnone, ← String.append_assoc]
    simp only [String.toList_append, String.toList_ofList, toList_shownOptions]
    exact (hbase.append hmark).append (Url.Form.standsFor_encodeFields _)

/-- **The shown URL is the URL of the set and the options as they are,** if neither the service root
nor the set holds a per cent sign or a plus sign. Whatever text the options hold, their bytes are
read back, so the written URL is never shown in place of it. -/
theorem displayUrl_verbatim (hroot : IsSignFree serviceRoot) (hset : IsSignFree selection.set)
    (version? : Option String) (declared? : Option (List String)) :
    (compile serviceRoot selection version? declared?).displayUrl =
        dropTrailingSlashes serviceRoot ++ "/" ++ selection.set ++
          (if selection.options version? declared? = [] then ""
            else "?" ++ joined "&" ((selection.options version? declared?).map fun option =>
              option.1 ++ "=" ++ option.2)) ∧
      Url.Form.decode? (compile serviceRoot selection version? declared?).url.toList =
        some (compile serviceRoot selection version? declared?).displayUrl.toList := by
  have hread := (standsFor_url hroot hset version? declared?).decode?_eq
  have hshown : (compile serviceRoot selection version? declared?).displayUrl =
      displayed (compile serviceRoot selection version? declared?).url := by
    simp only [compile]
  rw [displayed, Url.Form.decode, hread, Option.getD_some, String.ofList_toList] at hshown
  refine ⟨hshown, ?_⟩
  rw [hshown, hread]

/-- A service and a set with letters beyond ASCII, and options that hold every sign of a form. -/
def wideSelection : Selection :=
  { set := "Aufträge", filter? := some "Rabatt eq '100%25' and Ort ne 'Köln+Bonn&é=\u2028'",
    top? := some 0 }

theorem displayUrl_verbatim_wide :
    IsSignFree "https://host/Größen/" ∧ IsSignFree wideSelection.set ∧
      (compile "https://host/Größen/" wideSelection (some "4.0") none).displayUrl =
        "https://host/Größen/Aufträge" ++
          "?$filter=Rabatt eq '100%25' and Ort ne 'Köln+Bonn&é=\u2028'&$top=0" := by
  have hroot : IsSignFree "https://host/Größen/" := by decide
  have hset : IsSignFree wideSelection.set := by decide
  refine ⟨hroot, hset, ?_⟩
  rw [(displayUrl_verbatim hroot hset (some "4.0") none).1]
  decide

end ODataExplorer.Query
