import ODataExplorer.Proofs.Query.ServiceUrl
import ODataExplorer.Proofs.Url.Authority

/-!
The metadata document of the service of any URL.

The root of a path is told from its segments (`IsRootPath`): the first one with the ending of a
service is its last, wherever it stands, and without such a segment nothing is dropped but slashes
at the end. The search through the text of the path finds exactly that root
(`IsRootPath.rootPath_eq`), and finds it again in the root itself (`IsRootPath.self`).

So the metadata document of a URL with an authority is that of its root, below the same scheme and
the same authority (`metadataUrl_cut`), and the document and its service root lead to each other
(`metadataUrl_serviceRoot`). A URL that leads to a metadata document already is its own document,
with the slashes behind it, which are not found again from its service root
(`metadataUrl_slash`).
-/

namespace ODataExplorer.Query

open Text Url

variable {path root : List Char}

/-! ## The root of a path -/

/-- The root of a path, told from the segments of the path. -/
inductive IsRootPath (path : List Char) : List Char → Prop where
  /-- It ends with the first segment of a service. -/
  | service {before : List (List Char)} {last : List Char} {after : List (List Char)}
      (segments : pieces '/' path = before ++ last :: after)
      (ending : endsWith serviceEnding last = true)
      (others : ∀ segment ∈ before, endsWith serviceEnding segment = false) :
      IsRootPath path (joinWith ['/'] (before ++ [last]))
  /-- Without such a segment it is all the path, up to the slashes at its end. -/
  | whole (others : ∀ segment ∈ pieces '/' path, endsWith serviceEnding segment = false) :
      IsRootPath path (dropEndWhile isSlash path)

/-- Every path has a root. -/
theorem exists_isRootPath (path : List Char) : ∃ root, IsRootPath path root := by
  cases hfirst : (pieces '/' path).find? (endsWith serviceEnding) with
  | none =>
    refine ⟨_, .whole fun segment hmem => ?_⟩
    exact Bool.eq_false_iff.mpr (List.find?_eq_none.mp hfirst segment hmem)
  | some last =>
    obtain ⟨hending, before, after, hsegments, hothers⟩ := List.find?_eq_some_iff_append.mp hfirst
    exact ⟨_, .service hsegments hending fun segment hmem => by simpa using hothers segment hmem⟩

section Segments

variable {before after : List (List Char)} {last : List Char}

/-- Where no segment but the last has the ending of a service, that one decides. -/
theorem rootPath_of_segments (segments : pieces '/' path = before ++ [last])
    (others : ∀ segment ∈ before, endsWith serviceEnding segment = false) :
    rootPath path =
      if endsWith serviceEnding last then path else dropEndWhile isSlash path := by
  have hmark : '/' ∉ serviceEnding := by decide
  have hslash : ∀ segment ∈ before ++ [last], '/' ∉ segment := fun segment hmem =>
    notMem_of_mem_pieces (segments ▸ hmem)
  have hbefore : ∀ segment ∈ before, '/' ∉ segment ∧ endsWith serviceEnding segment = false :=
    fun segment hmem => ⟨hslash segment (List.mem_append_left _ hmem), others segment hmem⟩
  have hpath : joinWith ['/'] (before ++ [last]) = path := by rw [← segments, joinWith_pieces]
  have hnone := cutWord?_joinWith_eq_none hmark hbefore (hslash last (by simp))
  have hends := endsWith_joinWith hmark before last
  rw [hpath] at hnone hends
  rw [rootPath, hnone, ← hends]

/-- The path of a service is its own root. -/
theorem EndsInService.rootPath_eq (h : EndsInService path) : rootPath path = path := by
  obtain ⟨before, last, hsegments, hending, hothers⟩ := h
  rw [rootPath_of_segments hsegments hothers, if_pos hending]

theorem rootPath_of_forall
    (h : ∀ segment ∈ pieces '/' path, endsWith serviceEnding segment = false) :
    rootPath path = dropEndWhile isSlash path := by
  obtain ⟨before, last, hsegments⟩ :=
    (List.eq_nil_or_concat' (pieces '/' path)).resolve_left (pieces_ne_nil '/' path)
  rw [hsegments, List.forall_mem_append] at h
  rw [rootPath_of_segments hsegments h.1, h.2 last (List.mem_singleton_self last),
    if_neg Bool.false_ne_true]

/-- The segments up to that of a service make its path. -/
theorem endsInService_of_segments (segments : pieces '/' path = before ++ last :: after)
    (ending : endsWith serviceEnding last = true)
    (others : ∀ segment ∈ before, endsWith serviceEnding segment = false) :
    pieces '/' (joinWith ['/'] (before ++ [last])) = before ++ [last] ∧
      EndsInService (joinWith ['/'] (before ++ [last])) := by
  have hpieces : pieces '/' (joinWith ['/'] (before ++ [last])) = before ++ [last] := by
    refine pieces_joinWith (by simp) fun segment hmem => ?_
    have hsegment : segment ∈ pieces '/' path := by
      rw [segments, List.append_cons]
      exact List.mem_append_left _ hmem
    exact notMem_of_mem_pieces hsegment
  exact ⟨hpieces, before, last, hpieces, ending, others⟩

/-- What follows a segment of the path, if anything does, follows it behind a slash. -/
theorem path_of_segments (segments : pieces '/' path = before ++ last :: after) :
    path = joinWith ['/'] (before ++ [last]) ∨
      ∃ rest, path = joinWith ['/'] (before ++ [last]) ++ '/' :: rest := by
  have hpath : joinWith ['/'] (before ++ last :: after) = path := by
    rw [← segments, joinWith_pieces]
  cases after with
  | nil => exact .inl hpath.symm
  | cons next after =>
    rw [List.append_cons, joinWith_append (by simp) (List.cons_ne_nil _ _)] at hpath
    exact .inr ⟨_, hpath.symm⟩

end Segments

/-- A path without the slashes at its end has no segment that the path does not have. -/
theorem pieces_dropEndWhile_subset (path : List Char) :
    pieces '/' (dropEndWhile isSlash path) ⊆ pieces '/' path := by
  induction path using List.reverseRecOn with
  | nil => exact List.Subset.refl _
  | append_singleton path c ih =>
    by_cases hc : isSlash c = true
    · rw [dropEndWhile_append_of_pos (List.forall_mem_singleton.mpr hc), eq_of_beq hc,
        pieces_append_cons]
      exact List.subset_append_of_subset_left _ ih
    · have hlast : ∀ d ∈ (path ++ [c]).getLast?, isSlash d = false := by
        rw [List.getLast?_concat]
        rintro d ⟨⟩
        exact Bool.eq_false_iff.mpr hc
      rw [dropEndWhile_eq_self hlast]
      exact List.Subset.refl _

namespace IsRootPath

/-- **The search through the text of a path finds its root.** -/
theorem rootPath_eq (h : IsRootPath path root) : rootPath path = root := by
  cases h with
  | service segments ending others =>
    obtain ⟨-, hservice⟩ := endsInService_of_segments segments ending others
    rcases path_of_segments segments with hpath | ⟨rest, hpath⟩
    · conv_lhs => rw [hpath]
      exact hservice.rootPath_eq
    · conv_lhs => rw [hpath]
      exact hservice.rootPath_append rest
  | whole others => exact rootPath_of_forall others

/-- A root is its own root. -/
theorem self (h : IsRootPath path root) : IsRootPath root root := by
  cases h with
  | service segments ending others =>
    obtain ⟨hpieces, -⟩ := endsInService_of_segments segments ending others
    exact .service hpieces ending others
  | whole others =>
    have hroot : dropEndWhile isSlash (dropEndWhile isSlash path) = dropEndWhile isSlash path :=
      dropEndWhile_eq_self fun _ hc => getLast?_dropEndWhile hc
    have hnone := IsRootPath.whole fun segment hmem =>
      others segment (pieces_dropEndWhile_subset path hmem)
    rwa [hroot] at hnone

theorem prefix_path (h : IsRootPath path root) : root <+: path := by
  cases h with
  | service segments ending others =>
    rcases path_of_segments segments with hpath | ⟨rest, hpath⟩
    · exact ⟨[], (List.append_nil _).trans hpath.symm⟩
    · exact ⟨_, hpath.symm⟩
  | whole others => exact List.rdropWhile_prefix _ _

/-- A root does not end in a slash. -/
theorem isSlash_of_mem_getLast? (h : IsRootPath path root) :
    ∀ c ∈ root.getLast?, isSlash c = false := by
  cases h with
  | service segments ending others =>
    intro c hc
    exact beq_false_of_ne ((endsInService_of_segments segments ending others).2.getLast? c hc)
  | whole others => exact fun c hc => getLast?_dropEndWhile hc

/-- A root leads to a metadata document only if the path does. -/
theorem isMetadataPath_root (h : IsRootPath path root) (hpath : isMetadataPath path = false) :
    isMetadataPath root = false := by
  rw [isMetadataPath, dropEndWhile_eq_self h.isSlash_of_mem_getLast?]
  cases h with
  | service segments ending others =>
    obtain ⟨stem, hstem, -⟩ :=
      (endsInService_of_segments segments ending others).2.cutWord?_append []
    rw [hstem, Bool.eq_false_iff]
    intro hends
    obtain ⟨front, hfront⟩ := List.isSuffixOf_iff_suffix.mp hends
    have hlast := congrArg List.getLast? hfront
    rw [List.getLast?_append, List.getLast?_append] at hlast
    cases hlast
  | whole others => exact hpath

end IsRootPath

/-! ## Documents -/

variable {url : String} {parts : Parts}

/-- The root of a path goes behind the authority that stood before the path. -/
theorem IsRootPath.hasAuthority (h : IsRootPath parts.path root) (hparts : parts.HasAuthority) :
    (parts.withPath root).HasAuthority := by
  obtain ⟨rest, hrest⟩ := h.prefix_path
  refine hparts.withPath (fun c hc => hparts.rooted c ?_) fun c hc => hparts.pathChars c ?_
  · rw [← hrest, List.head?_append, Option.mem_def.mp hc]
    rfl
  · exact h.prefix_path.subset hc

/-- So does the path of the metadata document of the root. -/
theorem IsRootPath.hasAuthority_document (h : IsRootPath parts.path root)
    (hparts : parts.HasAuthority) :
    (parts.withPath (root ++ '/' :: metadataSegment)).HasAuthority := by
  have hroot := h.hasAuthority hparts
  refine hparts.withPath (fun c hc => ?_) ?_
  · cases hempty : root with
    | nil =>
      rw [hempty] at hc
      exact (Option.some.inj hc).symm
    | cons first root =>
      rw [hempty] at hc
      exact hroot.rooted c (by rw [Parts.withPath, hempty]; exact hc)
  · have hsegment : ('/' :: metadataSegment).all isPathChar = true := by decide
    rw [List.forall_mem_append]
    refine ⟨hroot.pathChars, fun c hc => ?_⟩
    have hchar : isPathChar c = true := List.all_eq_true.mp hsegment c hc
    obtain ⟨hquery, hfragment, -⟩ := isPathChar_iff.mp hchar
    exact ⟨hquery, hfragment, isRemoved_of_isPathChar hchar⟩

/-- What is found for a URL with an authority, from its parts. -/
theorem metadataUrl_of_split (hsplit : Url.split (trimWhile isBlank url.toList) = .ok parts)
    (hne : parts.authority ≠ []) (hroot : IsRootPath parts.path root) :
    metadataUrl url = .ok (if isMetadataPath parts.path then url
      else String.ofList (parts.withPath (root ++ '/' :: metadataSegment)).front) := by
  have hparts := hasAuthority_of_split hsplit hne
  rw [metadataUrl, hsplit]
  dsimp only
  split
  · rfl
  · rw [hroot.rootPath_eq, ← (hroot.hasAuthority_document hparts).join_eq_front]
    rfl

/-- Two URLs have the same scheme, the same authority and the same segments up to the first one of a
service. -/
def SameService (parts other : Parts) : Prop :=
  parts.scheme = other.scheme ∧ parts.authority = other.authority ∧
    ∃ before last after otherAfter, pieces '/' parts.path = before ++ last :: after ∧
      pieces '/' other.path = before ++ last :: otherAfter ∧
      endsWith serviceEnding last = true ∧
      ∀ segment ∈ before, endsWith serviceEnding segment = false

/-- **The metadata document of a URL is that of the root of its path,** with nothing behind it. What
follows the segment of a service makes no difference to it. -/
theorem metadataUrl_cut (hsplit : Url.split (trimWhile isBlank url.toList) = .ok parts)
    (hne : parts.authority ≠ []) :
    (isMetadataPath parts.path = true → metadataUrl url = .ok url) ∧
    (isMetadataPath parts.path = false →
      (∃ root document, IsRootPath parts.path root ∧ metadataUrl url = .ok document ∧
        document.toList = (parts.withPath (root ++ '/' :: metadataSegment)).front ∧
        Url.split document.toList =
          .ok ⟨parts.scheme, parts.authority, root ++ '/' :: metadataSegment, [], []⟩) ∧
      ∀ other otherParts, Url.split (trimWhile isBlank other.toList) = .ok otherParts →
        isMetadataPath otherParts.path = false → SameService parts otherParts →
        metadataUrl other = metadataUrl url) := by
  have hparts := hasAuthority_of_split hsplit hne
  constructor
  · intro hpath
    obtain ⟨root, hroot⟩ := exists_isRootPath parts.path
    rw [metadataUrl_of_split hsplit hne hroot, if_pos hpath]
  · intro hpath
    have hno : ¬isMetadataPath parts.path = true := Bool.eq_false_iff.mp hpath
    constructor
    · obtain ⟨root, hroot⟩ := exists_isRootPath parts.path
      refine ⟨root, _, hroot, metadataUrl_of_split hsplit hne hroot, ?_, ?_⟩
      · rw [if_neg hno, String.toList_ofList]
      · rw [if_neg hno, String.toList_ofList, (hroot.hasAuthority_document hparts).split_front]
        rfl
    · intro other otherParts hother hotherPath hsame
      obtain ⟨hscheme, hauthority, before, last, after, otherAfter, hsegments, hotherSegments,
        hending, hothers⟩ := hsame
      have hfound := metadataUrl_of_split hsplit hne (.service hsegments hending hothers)
      have hotherFound := metadataUrl_of_split hother (hauthority ▸ hne)
        (.service hotherSegments hending hothers)
      rw [if_neg hno] at hfound
      rw [if_neg (Bool.eq_false_iff.mp hotherPath)] at hotherFound
      rw [hfound, hotherFound, Parts.withPath, Parts.withPath, hscheme, hauthority]

/-- Two segments of a service, a query and a fragment: the first segment is the one that counts. -/
theorem metadataUrl_cut_twice :
    (∃ parts, Url.split (trimWhile isBlank "https://host/a.svc/b.svc/x?y#z".toList) = .ok parts ∧
      parts.authority ≠ []) ∧
    metadataUrl "https://host/a.svc/b.svc/x?y#z" = .ok "https://host/a.svc/$metadata" ∧
    metadataUrl "https://host/a.svc" = metadataUrl "https://host/a.svc/b.svc/x?y#z" := by
  have hsplit : Url.split (trimWhile isBlank "https://host/a.svc/b.svc/x?y#z".toList) =
      .ok ⟨"https".toList, "host".toList, "/a.svc/b.svc/x".toList, ['y'], ['z']⟩ := by
    decide +kernel
  have hother : Url.split (trimWhile isBlank "https://host/a.svc".toList) =
      .ok ⟨"https".toList, "host".toList, "/a.svc".toList, [], []⟩ := by
    decide +kernel
  obtain ⟨-, hcut⟩ := metadataUrl_cut hsplit (by decide)
  obtain ⟨⟨root, document, hroot, hurl, htext, -⟩, hsame⟩ := hcut (by decide)
  refine ⟨⟨_, hsplit, by decide⟩, ?_, hsame _ _ hother (by decide)
    ⟨rfl, rfl, [[]], "a.svc".toList, _, [], rfl, by decide, by decide, by decide⟩⟩
  have hdocument : document = "https://host/a.svc/$metadata" := by
    rw [← hroot.rootPath_eq] at htext
    rw [← String.ofList_toList (s := document), htext]
    decide +kernel
  rw [hurl, hdocument]

/-! ## Documents and their service roots -/

/-- Trimming leaves a text with an authority alone if its last character is not blank. -/
theorem trimWhile_front (h : parts.HasAuthority)
    (hlast : ∀ c ∈ parts.front.getLast?, isBlank c = false) :
    trimWhile isBlank parts.front = parts.front := by
  refine trimWhile_eq_self (fun c hc => ?_) hlast
  rcases h.head?_front c hc with hscheme | rfl
  · exact isBlank_of_isSchemeChar hscheme
  · rfl

/-- Nothing blank stands in the text of a root if nothing blank stands in the URL. -/
theorem isBlank_of_mem_front (hsplit : Url.split (trimWhile isBlank url.toList) = .ok parts)
    (hparts : parts.HasAuthority) (hroot : IsRootPath parts.path root)
    (hurl : ∀ c ∈ url.toList, isBlank c = false) :
    ∀ c ∈ (parts.withPath root).front, isBlank c = false := by
  have hgiven : ∀ c, c ∈ parts.authority ∨ c ∈ parts.path → isBlank c = false := fun c hc =>
    hurl c ((List.dropWhile_sublist _).subset (mem_of_mem_dropEndWhile (mem_of_split hsplit hc).1))
  intro c hc
  rcases Parts.HasAuthority.mem_front hc with hc | rfl | rfl | hc | hc
  · exact isBlank_of_isSchemeChar (hparts.isScheme.chars c hc)
  · rfl
  · rfl
  · exact hgiven c (.inl hc)
  · exact hgiven c (.inr (hroot.prefix_path.subset hc))

namespace IsRootPath

variable (h : IsRootPath parts.path root) (hparts : parts.HasAuthority)

include h hparts

/-- The document of a root leads to itself. -/
theorem metadataUrl_document :
    metadataUrl (String.ofList (parts.withPath (root ++ '/' :: metadataSegment)).front) =
      .ok (String.ofList (parts.withPath (root ++ '/' :: metadataSegment)).front) := by
  have hdocument := h.hasAuthority_document hparts
  have hlast : ∀ c ∈ (parts.withPath (root ++ '/' :: metadataSegment)).front.getLast?,
      isBlank c = false := by
    rw [Parts.front_withPath_append, List.getLast?_append]
    rintro c ⟨⟩
    rfl
  have hpath : isMetadataPath (root ++ '/' :: metadataSegment) = true := by
    have hpath := isMetadataPath_append (root ++ ['/']) 0
    rwa [List.replicate_zero, List.append_nil, ← List.append_cons] at hpath
  rw [metadataUrl, String.toList_ofList, trimWhile_front hdocument hlast, hdocument.split_front]
  exact if_pos hpath

/-- The service root of the document is the root, below the same authority. -/
theorem serviceRoot_document :
    serviceRoot (String.ofList (parts.withPath (root ++ '/' :: metadataSegment)).front) =
      String.ofList (parts.withPath root).front := by
  have hfront := h.hasAuthority hparts
  have hend := hfront.getLast?_front fun c hc => ne_of_beq_false (h.isSlash_of_mem_getLast? c hc)
  rw [Parts.front_withPath_append]
  exact serviceRoot_append_segment hfront.notMem_front hend

/-- A root with nothing blank in it leads to its document. -/
theorem metadataUrl_root (hpath : isMetadataPath parts.path = false)
    (hblank : ∀ c ∈ (parts.withPath root).front, isBlank c = false) :
    metadataUrl (String.ofList (parts.withPath root).front) =
      .ok (String.ofList (parts.withPath (root ++ '/' :: metadataSegment)).front) := by
  have hfront := h.hasAuthority hparts
  have hsplit : Url.split (trimWhile isBlank (String.ofList (parts.withPath root).front).toList) =
      .ok (parts.withPath root) := by
    rw [String.toList_ofList, trimWhile_front hfront fun c hc => hblank c (List.mem_of_getLast? hc),
      hfront.split_front]
    rfl
  rw [metadataUrl_of_split hsplit hparts.authority_ne_nil h.self]
  exact congrArg Except.ok (if_neg (Bool.eq_false_iff.mp (h.isMetadataPath_root hpath)))

end IsRootPath

/-- **The metadata document of a URL and its service root lead to each other.** -/
theorem metadataUrl_serviceRoot (hsplit : Url.split (trimWhile isBlank url.toList) = .ok parts)
    (hne : parts.authority ≠ []) (hpath : isMetadataPath parts.path = false) :
    ∃ document, metadataUrl url = .ok document ∧ metadataUrl document = .ok document ∧
      '?' ∉ (serviceRoot document).toList ∧
      (∀ c ∈ (serviceRoot document).toList.getLast?, c ≠ '/') ∧
      serviceRoot document ++ "/$metadata" = document ∧
      ((∀ c ∈ url.toList, isBlank c = false) →
        metadataUrl (serviceRoot document) = .ok document) := by
  have hparts := hasAuthority_of_split hsplit hne
  obtain ⟨root, hroot⟩ := exists_isRootPath parts.path
  have hfront := hroot.hasAuthority hparts
  refine ⟨_, metadataUrl_of_split hsplit hne hroot, ?_⟩
  rw [if_neg (Bool.eq_false_iff.mp hpath), hroot.serviceRoot_document hparts, String.toList_ofList]
  refine ⟨hroot.metadataUrl_document hparts, hfront.notMem_front, ?_, ?_, fun hurl => ?_⟩
  · exact hfront.getLast?_front fun c hc => ne_of_beq_false (hroot.isSlash_of_mem_getLast? c hc)
  · rw [Parts.front_withPath_append, String.ofList_append]
    rfl
  · exact hroot.metadataUrl_root hparts hpath (isBlank_of_mem_front hsplit hparts hroot hurl)

/-- A path without a segment of a service, with slashes in and behind it, and a query. -/
theorem metadataUrl_serviceRoot_plain :
    (∃ parts, Url.split (trimWhile isBlank "HTTP://host:80//data//?x#y".toList) = .ok parts ∧
      parts.authority ≠ [] ∧ isMetadataPath parts.path = false) ∧
    metadataUrl "HTTP://host:80//data//?x#y" = .ok "http://host:80//data/$metadata" ∧
    serviceRoot "http://host:80//data/$metadata" = "http://host:80//data" ∧
    metadataUrl "http://host:80//data" = .ok "http://host:80//data/$metadata" := by
  have hsplit : Url.split (trimWhile isBlank "HTTP://host:80//data//?x#y".toList) =
      .ok ⟨"http".toList, "host:80".toList, "//data//".toList, ['x'], ['y']⟩ := by
    decide +kernel
  obtain ⟨document, hurl, -, -, -, happend, hback⟩ :=
    metadataUrl_serviceRoot hsplit (by decide) (by decide)
  have hdocument : document = "http://host:80//data/$metadata" := by
    have hfound : metadataUrl "HTTP://host:80//data//?x#y" =
        .ok "http://host:80//data/$metadata" := by decide +kernel
    exact Except.ok.inj (hurl.symm.trans hfound)
  subst hdocument
  have hroot : serviceRoot "http://host:80//data/$metadata" = "http://host:80//data" := by
    decide +kernel
  have hclear : "HTTP://host:80//data//?x#y".toList.all (!isBlank ·) = true := by decide
  have hagain := hback fun c hc => by simpa using List.all_eq_true.mp hclear c hc
  exact ⟨⟨_, hsplit, by decide, by decide⟩, hurl, hroot, hroot ▸ hagain⟩

/-- Behind the segment of a metadata document, a slash is not found again from the service root. -/
theorem metadataUrl_slash :
    (∃ parts, Url.split (trimWhile isBlank "https://host/Northwind.svc/$metadata/".toList) =
        .ok parts ∧ parts.authority ≠ [] ∧ endsWith metadataSegment parts.path = false) ∧
    metadataUrl "https://host/Northwind.svc/$metadata/" =
      .ok "https://host/Northwind.svc/$metadata/" ∧
    serviceRoot "https://host/Northwind.svc/$metadata/" ++ "/$metadata" ≠
      "https://host/Northwind.svc/$metadata/" := by
  have hsplit : Url.split (trimWhile isBlank "https://host/Northwind.svc/$metadata/".toList) =
      .ok ⟨"https".toList, "host".toList, "/Northwind.svc/$metadata/".toList, [], []⟩ := by
    decide +kernel
  exact ⟨⟨_, hsplit, by decide, by decide⟩, by decide +kernel, by decide +kernel⟩

end ODataExplorer.Query
