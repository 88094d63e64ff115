import ODataExplorer.Proofs.Query.Compile
import ODataExplorer.Proofs.Url.FormBehind
import ODataExplorer.Proofs.Url.Split

/-!
The URL of a query as it is written.

The options are encoded, and the set is written as it is. So the URL has only characters of URLs
exactly if the set has; and where the set holds the mark of a query or of a fragment, the options
are no longer what a reader finds behind the first question mark: a number sign leaves them to the
fragment, a question mark makes them a part of what it begins. Nothing else in a set can do that,
whatever characters it has.

Main statement: what is written, what of it can be split, and when the query that is split off
carries the options (`compile_url_written`).
-/

namespace ODataExplorer.Query

open Text

/-! ## Characters -/

/-- The characters of a service root: all that URLs are written with but the two marks. -/
def isRootChar (c : Char) : Bool :=
  Url.Form.isUnreserved c || ":/[]@!$&'()*+,;=%".toList.contains c

/-- The characters of URLs. -/
def isUrlChar (c : Char) : Bool := isRootChar c || c == '?' || c == '#'

variable {c : Char}

theorem isUrlChar_of_isRootChar (h : isRootChar c = true) : isUrlChar c = true := by
  rw [isUrlChar, h]
  rfl

theorem isRootChar_of_isFormChar (h : Url.Form.isFormChar c = true) : isRootChar c = true := by
  rw [Url.Form.isFormChar, Bool.or_eq_true] at h
  rw [isRootChar, Bool.or_eq_true]
  refine h.imp_right fun hsign => ?_
  rw [List.contains_iff_mem] at hsign
  simp only [List.mem_cons, List.not_mem_nil, or_false] at hsign
  rcases hsign with rfl | rfl | rfl | rfl <;> decide

theorem visible_of_isUnreserved (h : Url.Form.isUnreserved c = true) : 0x20 < c.toNat := by
  simp only [Url.Form.isUnreserved, Bool.or_eq_true, Bool.and_eq_true, decide_eq_true_eq,
    beq_iff_eq] at h
  rcases h with (((((⟨hlow, -⟩ | ⟨hlow, -⟩) | ⟨hlow, -⟩) | rfl) | rfl) | rfl) | rfl
  · have hbound : 0x61 ≤ c.toNat := hlow
    omega
  · have hbound : 0x41 ≤ c.toNat := hlow
    omega
  · have hbound : 0x30 ≤ c.toNat := hlow
    omega
  all_goals decide

theorem visible_of_isRootChar (h : isRootChar c = true) : 0x20 < c.toNat := by
  rw [isRootChar, Bool.or_eq_true, List.contains_iff_mem] at h
  rcases h with h | h
  · exact visible_of_isUnreserved h
  · have hsigns : ":/[]@!$&'()*+,;=%".toList.all (0x20 < ·.toNat) = true := by decide
    exact of_decide_eq_true (List.all_eq_true.mp hsigns c h)

theorem isUnmarked_of_isRootChar {cs : List Char} (h : ∀ c ∈ cs, isRootChar c = true) :
    Url.IsUnmarked cs :=
  ⟨fun hmem => (nomatch h _ hmem), fun hmem => (nomatch h _ hmem)⟩

/-! ## Options behind a set -/

variable {options : List (String × String)}

theorem isRootChar_of_mem_encodeFields (h : c ∈ Url.Form.encodeFields options) :
    isRootChar c = true :=
  isRootChar_of_isFormChar (Url.Form.isFormChar_of_mem_encodeFields h)

/-- Options are written with characters of URLs, and none of them begins a fragment. -/
theorem mem_writtenOptions (h : c ∈ writtenOptions options) :
    isUrlChar c = true ∧ 0x20 < c.toNat ∧ c ≠ '#' := by
  rw [writtenOptions] at h
  split at h
  · cases h
  · rcases List.mem_cons.mp h with rfl | h
    · decide
    · have hc := isRootChar_of_mem_encodeFields h
      refine ⟨isUrlChar_of_isRootChar hc, visible_of_isRootChar hc, ?_⟩
      rintro rfl
      cases hc

theorem filter_writtenOptions (options : List (String × String)) :
    (writtenOptions options).filter (!Url.isRemoved ·) = writtenOptions options :=
  Url.filter_isRemoved_of_visible fun _ hc => (mem_writtenOptions hc).2.1

theorem head?_writtenOptions (h : c ∈ (writtenOptions options).head?) : c = '?' := by
  rw [writtenOptions] at h
  split at h
  · cases h
  · exact (Option.some.inj h).symm

variable (hvalues : ∀ option ∈ options, option.2 ≠ "")
include hvalues

/-- Behind a set without marks, a reader finds the options. -/
theorem readFields?_of_isUnmarked {set : List Char} (h : Url.IsUnmarked set) :
    Url.Form.readFields? (Url.queryIn (set ++ writtenOptions options)) = some options := by
  rw [writtenOptions]
  split
  · next hnone =>
    rw [List.append_nil, Url.queryIn_of_isUnmarked h, hnone]
    rfl
  · have hform : Url.IsUnmarked (Url.Form.encodeFields options) :=
      isUnmarked_of_isRootChar fun _ => isRootChar_of_mem_encodeFields
    rw [Url.queryIn_append_cons h hform.2, Url.Form.readFields?_encodeFields hvalues]

/-- **What a reader finds behind a set with a mark.** The options come back only where they are no
part of the query, and then only if what the set holds in their place reads the same. -/
theorem readFields?_of_not_isUnmarked {set : List Char} (h : ¬Url.IsUnmarked set) :
    Url.Form.readFields? (Url.queryIn (set ++ writtenOptions options)) = some options ↔
      ('#' ∈ set ∨ options = []) ∧ Url.Form.readFields? (Url.queryIn set) = some options := by
  by_cases hsign : '#' ∈ set
  · rw [Url.queryIn_append_of_mem hsign]
    exact (and_iff_right (Or.inl hsign)).symm
  · cases options with
    | nil =>
      rw [writtenOptions, if_pos rfl, List.append_nil]
      exact (and_iff_right (Or.inr rfl)).symm
    | cons option options =>
      -- the question mark of the set begins the query, so that of the options is read with them
      have hmark : '?' ∈ set := by
        by_contra hmark
        exact h ⟨hmark, hsign⟩
      obtain ⟨before, rest, rfl, hbefore⟩ := List.eq_append_cons_of_mem hmark
      obtain ⟨hfirst, hrest⟩ := not_or.mp (List.mem_append.not.mp hsign)
      have hquery : Url.queryIn (before ++ '?' :: rest ++ writtenOptions (option :: options)) =
          rest ++ '?' :: Url.Form.encodeFields (option :: options) := by
        rw [List.append_assoc, List.cons_append, Url.queryIn_append_cons ⟨hbefore, hfirst⟩,
          writtenOptions, if_neg (List.cons_ne_nil _ _)]
        rw [List.mem_append]
        exact not_or_intro (List.not_mem_of_not_mem_cons hrest)
          fun hmem => (mem_writtenOptions hmem).2.2 rfl
      rw [hquery]
      constructor
      · exact fun hread => absurd hread (Url.Form.readFields?_behind hvalues rest)
      · rintro ⟨hmem | hnone, -⟩
        · exact absurd hmem hsign
        · cases hnone

omit hvalues

/-! ## URLs -/

variable {serviceRoot : String} (hroot : ∀ c ∈ serviceRoot.toList, isRootChar c = true)
  (selection : Selection) (version? : Option String) (declared? : Option (List String))
include hroot

theorem isRootChar_of_mem_dropTrailingSlashes :
    ∀ c ∈ (dropTrailingSlashes serviceRoot).toList, isRootChar c = true :=
  fun c hc => hroot c (dropTrailingSlashes_subset serviceRoot hc)

/-- The set is what decides whether a URL is written with characters of URLs. -/
theorem isUrlChar_url_iff :
    (∀ c ∈ (compile serviceRoot selection version? declared?).url.toList, isUrlChar c = true) ↔
      ∀ c ∈ selection.set.toList, isUrlChar c = true := by
  have hkept := isRootChar_of_mem_dropTrailingSlashes hroot
  rw [toList_url, List.forall_mem_append, List.forall_mem_cons, List.forall_mem_append]
  constructor
  · rintro ⟨-, -, hset, -⟩
    exact hset
  · intro hset
    exact ⟨fun c hc => isUrlChar_of_isRootChar (hkept c hc), rfl, hset,
      fun c hc => (mem_writtenOptions hc).1⟩

/-- Of a URL, cleaning can only take characters of the set away. -/
theorem cleaned_url :
    Url.cleaned (compile serviceRoot selection version? declared?).url.toList =
      (dropTrailingSlashes serviceRoot).toList ++
        '/' :: (selection.set.toList.filter (!Url.isRemoved ·) ++
          writtenOptions (selection.options version? declared?)) := by
  have hkept := isRootChar_of_mem_dropTrailingSlashes hroot
  rw [toList_url, Url.cleaned_append_slash fun c hc => visible_of_isRootChar (hkept c hc),
    List.filter_append, filter_writtenOptions]

/-- A URL can be split if the service root can, unless the set goes on with a slash. -/
theorem isOk_split_url_iff
    (hset : ∀ c ∈ (selection.set.toList.filter (!Url.isRemoved ·)).head?, c ≠ '/') :
    (∃ parts, Url.split (compile serviceRoot selection version? declared?).url.toList =
        .ok parts) ↔
      ∃ parts, Url.split (dropTrailingSlashes serviceRoot).toList = .ok parts := by
  have hkept := isRootChar_of_mem_dropTrailingSlashes hroot
  have hlast : ∀ c ∈ (dropTrailingSlashes serviceRoot).toList.getLast?, c ≠ '/' := by
    intro c hc
    rw [dropTrailingSlashes, String.toList_ofList] at hc
    have hnot := getLast?_dropEndWhile hc
    exact ne_of_beq_false hnot
  have hnext : ∀ c ∈ ((selection.set.toList ++
      writtenOptions (selection.options version? declared?)).filter (!Url.isRemoved ·)).head?,
      c ≠ '/' := by
    rw [List.filter_append, filter_writtenOptions, List.head?_append]
    intro c hc
    rcases Option.or_eq_some_iff.mp hc with hc | ⟨-, hc⟩
    · exact hset c hc
    · rw [head?_writtenOptions hc]
      decide
  rw [Url.isOk_split_iff, Url.isOk_split_iff, toList_url,
    Url.authorityIn_append (fun c hc => visible_of_isRootChar (hkept c hc)) hlast hnext]

/-- **When the query of a URL carries the options.** -/
theorem readFields?_of_split_url {parts : Url.Parts}
    (h : Url.split (compile serviceRoot selection version? declared?).url.toList = .ok parts) :
    Url.Form.readFields? parts.query = some (selection.options version? declared?) ↔
      Url.IsUnmarked selection.set.toList ∨
        ('#' ∈ selection.set.toList ∨ selection.options version? declared? = []) ∧
          Url.Form.readFields?
              (Url.queryIn (selection.set.toList.filter (!Url.isRemoved ·))) =
            some (selection.options version? declared?) := by
  have hvalues : ∀ option ∈ selection.options version? declared?, option.2 ≠ "" :=
    fun _ hoption => Selection.value_of_mem_options hoption
  have hbefore : Url.IsUnmarked ((dropTrailingSlashes serviceRoot).toList ++ ['/']) :=
    Url.isUnmarked_append.mpr
      ⟨isUnmarked_of_isRootChar (isRootChar_of_mem_dropTrailingSlashes hroot), by decide⟩
  have hquery : parts.query = Url.queryIn (selection.set.toList.filter (!Url.isRemoved ·) ++
      writtenOptions (selection.options version? declared?)) := by
    rw [Url.query_of_split h, cleaned_url hroot, List.append_cons, Url.queryIn_append hbefore]
  have hmem : ∀ {mark}, Url.isRemoved mark = false →
      (mark ∈ selection.set.toList.filter (!Url.isRemoved ·) ↔ mark ∈ selection.set.toList) := by
    intro mark hmark
    rw [List.mem_filter, hmark]
    exact and_iff_left rfl
  have hmarks : Url.IsUnmarked (selection.set.toList.filter (!Url.isRemoved ·)) ↔
      Url.IsUnmarked selection.set.toList := by
    rw [Url.IsUnmarked, Url.IsUnmarked, hmem (by decide), hmem (by decide)]
  rw [hquery]
  by_cases hunmarked : Url.IsUnmarked selection.set.toList
  · exact iff_of_true (readFields?_of_isUnmarked hvalues (hmarks.mpr hunmarked)) (.inl hunmarked)
  · rw [readFields?_of_not_isUnmarked hvalues (hmarks.not.mpr hunmarked), hmem (by decide)]
    exact (or_iff_right hunmarked).symm

omit hroot

/-- **The written URL.** A service root of characters of URLs is kept, and so is the set, whatever
it holds. So the URL has only characters of URLs exactly if the set has; it can be split exactly if
the root can, unless the set goes on with a slash; and the query that is split off carries the
options exactly if the set has neither mark, or if the options are no part of the query and what the
set holds in their place reads the same. -/
theorem compile_url_written {serviceRoot : String}
    (hroot : ∀ c ∈ serviceRoot.toList, isRootChar c = true) (selection : Selection)
    (version? : Option String) (declared? : Option (List String)) :
    let url := (compile serviceRoot selection version? declared?).url.toList
    let set := selection.set.toList
    let options := selection.options version? declared?
    ((∀ c ∈ url, isUrlChar c = true) ↔ ∀ c ∈ set, isUrlChar c = true) ∧
    ((∀ c ∈ (set.filter (!Url.isRemoved ·)).head?, c ≠ '/') →
      ((∃ parts, Url.split url = .ok parts) ↔
        ∃ parts, Url.split (dropTrailingSlashes serviceRoot).toList = .ok parts)) ∧
    ∀ parts, Url.split url = .ok parts →
      (Url.Form.readFields? parts.query = some options ↔
        Url.IsUnmarked set ∨
          ('#' ∈ set ∨ options = []) ∧
            Url.Form.readFields? (Url.queryIn (set.filter (!Url.isRemoved ·))) = some options) :=
  ⟨isUrlChar_url_iff hroot selection version? declared?,
    isOk_split_url_iff hroot selection version? declared?,
    fun _ => readFields?_of_split_url hroot selection version? declared?⟩

/-- A selection of which the filter has every mark, and the set has none. -/
def markedSelection : Selection :=
  { set := "Orders(1)", filter? := some "Note eq '?a#b' & 50% = é", count := true }

theorem compile_url_written_marked :
    (∀ c ∈ "https://[::1]:8080/Northwind.svc/".toList, isRootChar c = true) ∧
      let url := (compile "https://[::1]:8080/Northwind.svc/" markedSelection (some "4.01")
        none).url.toList
      (∀ c ∈ url, isUrlChar c = true) ∧ ∃ parts, Url.split url = .ok parts ∧
        Url.Form.readFields? parts.query =
          some [("$filter", "Note eq '?a#b' & 50% = é"), ("$count", "true")] := by
  have hroot : ∀ c ∈ "https://[::1]:8080/Northwind.svc/".toList, isRootChar c = true :=
    List.all_eq_true.mp (by decide)
  have hset : ∀ c ∈ markedSelection.set.toList, isUrlChar c = true :=
    List.all_eq_true.mp (by decide)
  have hnext : ∀ c ∈ (markedSelection.set.toList.filter (!Url.isRemoved ·)).head?, c ≠ '/' := by
    rintro c ⟨⟩
    decide
  obtain ⟨hlegal, hsplit, hquery⟩ :=
    compile_url_written hroot markedSelection (some "4.01") none
  obtain ⟨parts, hparts⟩ := (hsplit hnext).mpr
    ⟨⟨"https".toList, "[::1]:8080".toList, "/Northwind.svc".toList, [], []⟩, by rfl⟩
  exact ⟨hroot, hlegal.mpr hset, parts, hparts, (hquery parts hparts).mpr (.inl (by decide))⟩

/-- A letter beyond ASCII in a set stays one, and a number sign in a set leaves the options to the
fragment. -/
theorem set_not_encoded :
    (¬∀ c ∈ (compile "https://host/Northwind.svc" { set := "Aufträge", top? := some 2 }
        (some "2.0") none).url.toList, isUrlChar c = true) ∧
      ∃ parts, Url.split (compile "https://host/Northwind.svc" { set := "A#B", top? := some 2 }
          (some "2.0") none).url.toList = .ok parts ∧
        Url.Form.readFields? parts.query ≠ some [("$top", "2")] := by
  refine ⟨fun hall => absurd (hall 'ä' (by decide)) (by decide), ⟨"https".toList, "host".toList, "/Northwind.svc/A".toList, [],
    "B?%24top=2".toList⟩, by rfl, by decide⟩

end ODataExplorer.Query
