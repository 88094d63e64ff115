import ODataExplorer.Proofs.Query.Compile
import ODataExplorer.Proofs.Query.ServiceUrl
import ODataExplorer.Service.Data
import ODataExplorer.Service.Metadata

/-!
Where a service is found.

The URL of a metadata document may be spelled with blanks around it and with slashes, a query and a
fragment behind it. Every spelling is known for what it is and is left alone, but the way from it to
the service root is not found from all of them: it is exactly if no blank stands in front, and if a
query follows or neither a fragment nor a blank does (`locate_spelling`). Main statement on
queries: from the URL of a query below a service there is a way back to the service, and the query
compiled there is the same again, unless the URL looks like that of a metadata document
(`compile_leads_back`).
-/

namespace ODataExplorer.Service

open Text Query

/-! ## Spellings of the URL of a metadata document -/

/-- What may stand around the URL of a metadata document. -/
structure Spelling where
  before : List Char
  slashes : Nat
  query? : Option (List Char)
  fragment? : Option (List Char)
  after : List Char
  before_blank : ∀ c ∈ before, isBlank c = true
  after_blank : ∀ c ∈ after, isBlank c = true

namespace Spelling

/-- What stands behind the path. -/
def tail (spelling : Spelling) : List Char :=
  (spelling.query?.map ('?' :: ·)).getD [] ++ (spelling.fragment?.map ('#' :: ·)).getD [] ++
    spelling.after

/-- The URL of the metadata document below a base, up to the end of its path. -/
def front (spelling : Spelling) (base : Url.Base) : List Char :=
  spelling.before ++ (base.chars ++ '/' :: metadataSegment ++ List.replicate spelling.slashes '/')

/-- The URL of the metadata document below a base. -/
def url (spelling : Spelling) (base : Url.Base) : String :=
  String.ofList (spelling.front base ++ spelling.tail)

/-- No blank stands in front, and behind the slashes there is a query, with anything behind it, or
nothing. -/
def IsClean (spelling : Spelling) : Prop :=
  spelling.before = [] ∧
    (spelling.query?.isSome = true ∨ spelling.fragment? = none ∧ spelling.after = [])

variable (spelling : Spelling) (base : Url.Base)

theorem tail_cases :
    (∀ c ∈ spelling.tail, isBlank c = true) ∨
      ∃ rest, spelling.tail = '?' :: rest ∨ spelling.tail = '#' :: rest := by
  rw [tail]
  cases spelling.query? with
  | some query => exact .inr ⟨_, .inl rfl⟩
  | none =>
    cases spelling.fragment? with
    | some fragment => exact .inr ⟨_, .inr rfl⟩
    | none => exact .inl spelling.after_blank

theorem notMem_front : '?' ∉ spelling.front base := by
  intro h
  rw [front, List.append_assoc, List.cons_append] at h
  rcases List.mem_append.mp h with h | h
  · cases spelling.before_blank _ h
  rcases List.mem_append.mp h with h | h
  · cases Url.Base.isPathChar_of_mem h
  rcases List.mem_cons.mp h with h | h
  · cases h
  · cases isPathChar_of_mem_metadata _ h

/-- What is left as the path below the base leads to a metadata document. -/
theorem isMetadataPath_below :
    isMetadataPath (base.path ++ '/' :: Url.Base.pathBelow (dropEndWhile isBlank
      (metadataSegment ++ List.replicate spelling.slashes '/' ++ spelling.tail))) = true := by
  rw [Url.Base.pathBelow_dropEndWhile isPathChar_of_mem_metadata spelling.tail_cases,
    List.append_cons, ← List.append_assoc, isMetadataPath_append]

/-- A spelling is left alone. -/
theorem metadataUrl_url : metadataUrl (spelling.url base) = .ok (spelling.url base) := by
  have hurl : spelling.url base = String.ofList (spelling.before ++ (base.chars ++ '/' ::
      (metadataSegment ++ List.replicate spelling.slashes '/' ++ spelling.tail))) := by
    simp [url, front]
  rw [hurl]
  exact metadataUrl_of_isMetadataPath base _ spelling.before_blank
    (spelling.isMetadataPath_below base)

variable {spelling base}

theorem serviceRoot_of_isClean (hbase : base.HasNoEndSlash)
    (h : spelling.IsClean) : serviceRoot (spelling.url base) = base.text := by
  obtain ⟨hbefore, htail⟩ := h
  have hquery : ∀ c ∈ spelling.tail.head?, c = '?' := by
    rw [tail]
    rcases htail with hquery | ⟨hfragment, hafter⟩
    · obtain ⟨query, hquery⟩ := Option.isSome_iff_exists.mp hquery
      rw [hquery]
      rintro c ⟨⟩
      rfl
    · rw [hfragment, hafter]
      cases spelling.query? with
      | none => exact nofun
      | some query =>
        rintro c ⟨⟩
        rfl
  rw [url, front, hbefore, List.nil_append]
  exact serviceRoot_metadata spelling.slashes hbase hquery

/-- In the root of any other spelling something stays that no URL of a service holds. -/
theorem exists_mem_of_not_isClean (h : ¬spelling.IsClean) :
    ∃ c, Url.isPathChar c = false ∧ c ∈ beforeFirst '?' (spelling.url base).toList := by
  -- the first blank in front stays, or else the mark of the fragment, or else the first blank behind
  have hfront := spelling.notMem_front base
  have hne : ∀ {c}, isBlank c = true → c ≠ '?' := by
    rintro c hc rfl
    cases hc
  rw [url, String.toList_ofList]
  cases hbefore : spelling.before with
  | cons c before =>
    have hblank := spelling.before_blank c (hbefore ▸ List.mem_cons_self)
    refine ⟨c, Url.isPathChar_of_isBlank hblank, ?_⟩
    rw [front, hbefore]
    exact mem_beforeFirst List.not_mem_nil (hne hblank) _
  | nil =>
    have hquery : spelling.query? = none := by
      cases hquery : spelling.query? with
      | none => rfl
      | some query => exact absurd ⟨hbefore, .inl (by rw [hquery]; rfl)⟩ h
    rw [tail, hquery]
    cases hfragment : spelling.fragment? with
    | some fragment => exact ⟨'#', rfl, mem_beforeFirst hfront (by decide) _⟩
    | none =>
      cases hafter : spelling.after with
      | nil => exact absurd ⟨hbefore, .inr ⟨hfragment, hafter⟩⟩ h
      | cons c after =>
        have hblank := spelling.after_blank c (hafter ▸ List.mem_cons_self)
        exact ⟨c, Url.isPathChar_of_isBlank hblank, mem_beforeFirst hfront (hne hblank) _⟩

theorem serviceRoot_of_not_isClean (h : ¬spelling.IsClean) :
    serviceRoot (spelling.url base) ≠ base.text := by
  obtain ⟨c, hc, hmem⟩ := @exists_mem_of_not_isClean _ base h
  have hslash : isSlash c = false := by
    refine beq_false_of_ne ?_
    rintro rfl
    cases hc
  have hsegment : c ∉ metadataSegment :=
    Url.notMem_of_isPathChar isPathChar_of_mem_metadataSegment hc
  have hbase : c ∉ base.chars :=
    Url.notMem_of_isPathChar (fun d hd => Url.Base.isPathChar_of_mem hd) hc
  intro hroot
  have hstays := mem_serviceRoot hmem hslash hsegment
  rw [hroot, Url.Base.text, String.toList_ofList] at hstays
  exact hbase hstays

end Spelling

/-! ## URLs below a service root -/

theorem dropTrailingSlashes_text {base : Url.Base} (hbase : base.HasNoEndSlash) :
    dropTrailingSlashes base.text = base.text := by
  have hend : ∀ c ∈ base.chars.getLast?, (c == '/') = false := fun c hc =>
    beq_false_of_ne (hbase.getLast?_chars c hc)
  rw [dropTrailingSlashes, Url.Base.text, String.toList_ofList, dropEndWhile_eq_self hend]

/-- The URL of a query stands below the service root. -/
theorem exists_compile_url {base : Url.Base} (hbase : base.HasNoEndSlash)
    (selection : Selection) (version? : Option String) (declared? : Option (List String)) :
    ∃ rest : List Char, (Query.compile base.text selection version? declared?).url =
      String.ofList (base.chars ++ '/' :: rest) := by
  refine ⟨selection.set.toList ++ writtenOptions (selection.options version? declared?), ?_⟩
  rw [← String.toList_inj, toList_url, dropTrailingSlashes_text hbase, String.toList_ofList,
    Url.Base.text, String.toList_ofList]

/-- **A spelling leads to the service root exactly if it is plain,** and then queries are asked
below that root. Every spelling is left as it is. -/
theorem locate_spelling (base : Url.Base) (hbase : base.HasNoEndSlash)
    (spelling : Spelling) :
    ∃ root, locate (spelling.url base) = .ok ⟨spelling.url base, root⟩ ∧
      (root = base.text ↔ spelling.IsClean) ∧
      (spelling.IsClean → ∀ selection version? declared?, ∃ rest,
        (Query.compile root selection version? declared?).url = base.text ++ "/" ++ rest) := by
  refine ⟨serviceRoot (spelling.url base), ?_, ⟨?_, ?_⟩, ?_⟩
  · rw [locate, spelling.metadataUrl_url]
  · intro hroot
    by_contra hclean
    exact Spelling.serviceRoot_of_not_isClean hclean hroot
  · exact Spelling.serviceRoot_of_isClean hbase
  · intro hclean selection version? declared?
    obtain ⟨rest, hurl⟩ := exists_compile_url hbase selection version? declared?
    refine ⟨String.ofList rest, ?_⟩
    rw [Spelling.serviceRoot_of_isClean hbase hclean, hurl, ← String.toList_inj]
    simp [Url.Base.text]

/-- An older service. -/
def northwind : Url.Base where
  scheme := "https".toList
  authority := "host".toList
  path := "/Northwind.svc".toList
  letter := by decide
  schemeChars := List.all_eq_true.mp (by decide)
  authority_ne_nil := List.cons_ne_nil _ _
  authorityChars := List.all_eq_true.mp (by decide)
  authority_slash := by decide
  brackets := by decide
  disguises := by decide
  rooted := by
    rintro c ⟨⟩
    rfl
  pathChars := List.all_eq_true.mp (by decide)

/-- A query and a fragment, with a slash in front and a blank behind. -/
def markedSpelling : Spelling where
  before := []
  slashes := 1
  query? := some "v=1".toList
  fragment? := some "top".toList
  after := [' ']
  before_blank := List.all_eq_true.mp rfl
  after_blank := List.all_eq_true.mp rfl

theorem locate_spelling_marked :
    northwind.HasNoEndSlash ∧
      markedSpelling.url northwind = "https://host/Northwind.svc/$metadata/?v=1#top " ∧
      locate (markedSpelling.url northwind) =
        .ok ⟨markedSpelling.url northwind, "https://host/Northwind.svc"⟩ := by
  have hbase : northwind.HasNoEndSlash := by
    rintro c ⟨⟩
    decide
  obtain ⟨root, hlocate, hroot, -⟩ := locate_spelling northwind hbase markedSpelling
  have htext : root = "https://host/Northwind.svc" := hroot.mpr ⟨rfl, .inl rfl⟩
  rw [htext] at hlocate
  exact ⟨hbase, rfl, hlocate⟩

/-- **A fragment or blanks alone keep the metadata segment in the service root.** -/
theorem locate_fragment :
    locate "https://host/Northwind.svc/$metadata#top" =
        .ok ⟨"https://host/Northwind.svc/$metadata#top",
          "https://host/Northwind.svc/$metadata#top"⟩ ∧
      locate " https://host/Northwind.svc/$metadata " =
        .ok ⟨" https://host/Northwind.svc/$metadata ",
          " https://host/Northwind.svc/$metadata "⟩ := ⟨rfl, rfl⟩

/-! ## The way back from a query -/

/-- **The URL of a query leads back to its service,** and the query that is compiled there is the
same, unless the path that is split off the URL leads to a metadata document. -/
theorem compile_leads_back (base : Url.Base) (hlower : base.scheme.map asciiLower = base.scheme)
    (hservice : EndsInService base.path) (selection : Selection) (version? : Option String)
    (declared? : Option (List String)) :
    ∃ parts, Url.split (trimWhile isBlank
        (Query.compile base.text selection version? declared?).url.toList) = .ok parts ∧
      (isMetadataPath parts.path = false →
        metadataUrl (Query.compile base.text selection version? declared?).url =
          .ok (base.text ++ "/$metadata") ∧
        serviceRoot (base.text ++ "/$metadata") = base.text ∧
        ∀ version, version? = some version →
          compile ⟨base.text ++ "/$metadata", version, selection, declared?⟩ =
            Query.compile base.text selection version? declared?) := by
  have hbase : base.HasNoEndSlash := hservice.getLast?
  obtain ⟨rest, hurl⟩ := exists_compile_url hbase selection version? declared?
  obtain ⟨query, fragment, hsplit⟩ := split_trimWhile_below base rest
  have hroot := serviceRoot_text_append hbase
  refine ⟨_, by rw [hurl, String.toList_ofList, hsplit], fun hpath => ⟨?_, hroot, ?_⟩⟩
  · rw [hurl]
    exact metadataUrl_below base rest hlower hservice hpath
  · rintro version rfl
    rw [compile, hroot]

/-- A set whose name holds the ending of a service and the mark of a query. -/
def markedSelection : Selection :=
  { set := "A.svc/B\tC?D ", filter? := some "Name eq '/$metadata'" }

theorem compile_leads_back_marked :
    northwind.scheme.map asciiLower = northwind.scheme ∧ EndsInService northwind.path ∧
      metadataUrl (Query.compile northwind.text markedSelection (some "2.0") none).url =
        .ok "https://host/Northwind.svc/$metadata" ∧
      compile ⟨"https://host/Northwind.svc/$metadata", "2.0", markedSelection, none⟩ =
        Query.compile northwind.text markedSelection (some "2.0") none := by
  have hlower : northwind.scheme.map asciiLower = northwind.scheme := by decide
  have hservice : EndsInService northwind.path :=
    ⟨[[]], "Northwind.svc".toList, by decide, by decide, by decide⟩
  obtain ⟨parts, hparts, hback⟩ :=
    compile_leads_back northwind hlower hservice markedSelection (some "2.0") none
  have hpath : (Url.split (trimWhile isBlank
      (Query.compile northwind.text markedSelection (some "2.0") none).url.toList)).toOption.map
        (isMetadataPath ·.path) = some false := by decide +kernel
  rw [hparts] at hpath
  obtain ⟨hurl, -, hsame⟩ := hback (Option.some.inj hpath)
  exact ⟨hlower, hservice, hurl, hsame "2.0" rfl⟩

end ODataExplorer.Service
