import ODataExplorer.Proofs.Url.Base
import ODataExplorer.Query.ServiceUrl

/-!
From the URL of a document to its service.

What is found for a URL below a base is told from the base and from what the split leaves of the
rest as a path. If that leads to a metadata document, the URL itself is the answer
(`metadataUrl_of_isMetadataPath`); if it leads elsewhere in a service whose last segment is the
first with the ending of one, the answer is the metadata document of the base
(`metadataUrl_below`). The service root of a metadata document is what stands before its last
segment, whatever query follows (`serviceRoot_append`), but a character that is neither a slash
nor of that segment is never dropped before the query (`mem_serviceRoot`).
-/

namespace ODataExplorer.Query

open Text Url

/-! ## Metadata documents -/

theorem isPathChar_of_mem_metadataSegment : ∀ c ∈ metadataSegment, isPathChar c = true :=
  List.all_eq_true.mp (by decide)

theorem isPathChar_of_mem_metadata {slashes : Nat} :
    ∀ c ∈ metadataSegment ++ List.replicate slashes '/', isPathChar c = true := by
  rw [List.forall_mem_append]
  refine ⟨isPathChar_of_mem_metadataSegment, fun c hc => ?_⟩
  rw [List.eq_of_mem_replicate hc]
  rfl

/-- The slashes behind a metadata segment are dropped, and nothing else. -/
theorem dropEndWhile_metadata (cs : List Char) (slashes : Nat) :
    dropEndWhile isSlash (cs ++ metadataSegment ++ List.replicate slashes '/') =
      cs ++ metadataSegment := by
  have hslash : ∀ c ∈ List.replicate slashes '/', isSlash c = true := fun c hc => by
    rw [List.eq_of_mem_replicate hc]
    rfl
  rw [dropEndWhile_append_of_pos hslash]
  refine dropEndWhile_eq_self fun c hc => ?_
  rw [List.getLast?_append] at hc
  cases hc
  rfl

theorem isMetadataPath_append (cs : List Char) (slashes : Nat) :
    isMetadataPath (cs ++ metadataSegment ++ List.replicate slashes '/') = true := by
  rw [isMetadataPath, dropEndWhile_metadata, endsWith_append]

/-- **The service root of a metadata document is what stands in front of its segment,** whatever
query follows. -/
theorem serviceRoot_append {root tail : List Char} (slashes : Nat) (hquery : '?' ∉ root)
    (hend : ∀ c ∈ root.getLast?, c ≠ '/') (htail : ∀ c ∈ tail.head?, c = '?') :
    serviceRoot (String.ofList
        (root ++ '/' :: metadataSegment ++ List.replicate slashes '/' ++ tail)) =
      String.ofList root := by
  have hmark : '?' ∉ root ++ '/' :: metadataSegment ++ List.replicate slashes '/' := by
    rw [List.append_assoc, List.cons_append, List.mem_append, List.mem_cons]
    exact not_or_intro hquery (not_or_intro (by decide)
      (notMem_of_isPathChar isPathChar_of_mem_metadata rfl))
  have htaken : beforeFirst '?' tail = [] := by
    cases tail with
    | nil => rfl
    | cons c tail => rw [htail c rfl, beforeFirst_cons_self]
  have hroot : dropEndWhile isSlash (root ++ ['/']) = root := by
    rw [dropEndWhile_append_of_pos (List.forall_mem_singleton.mpr rfl)]
    exact dropEndWhile_eq_self fun c hc => beq_false_of_ne (hend c hc)
  rw [serviceRoot, String.toList_ofList, beforeFirst_append hmark, htaken, List.append_nil,
    List.append_cons, dropEndWhile_metadata]
  rw [if_pos (endsWith_append _ _), List.length_append, Nat.add_sub_cancel, List.take_left', hroot]
  rfl

theorem serviceRoot_append_segment {root : List Char} (hquery : '?' ∉ root)
    (hend : ∀ c ∈ root.getLast?, c ≠ '/') :
    serviceRoot (String.ofList (root ++ '/' :: metadataSegment)) = String.ofList root := by
  have hnothing : ∀ c ∈ ([] : List Char).head?, c = '?' := nofun
  have hfound := serviceRoot_append 0 hquery hend hnothing
  rwa [List.replicate_zero, List.append_nil, List.append_nil] at hfound

/-- In particular, that is the base which the document is below. -/
theorem serviceRoot_metadata {base : Base} {tail : List Char} (slashes : Nat)
    (hbase : base.HasNoEndSlash) (htail : ∀ c ∈ tail.head?, c = '?') :
    serviceRoot (String.ofList
        (base.chars ++ '/' :: metadataSegment ++ List.replicate slashes '/' ++ tail)) =
      base.text :=
  serviceRoot_append slashes base.notMem_chars hbase.getLast?_chars htail

/-- The URL of the metadata document of a base. -/
theorem text_append_metadata (base : Base) :
    base.text ++ "/$metadata" = String.ofList (base.chars ++ '/' :: metadataSegment) := by
  rw [Base.text, String.ofList_append]
  rfl

theorem serviceRoot_text_append {base : Base} (hbase : base.HasNoEndSlash) :
    serviceRoot (base.text ++ "/$metadata") = base.text := by
  rw [text_append_metadata]
  exact serviceRoot_append_segment base.notMem_chars hbase.getLast?_chars

/-- A character before the query stays if it is neither a slash nor of the metadata segment. -/
theorem mem_serviceRoot {url : String} {c : Char} (h : c ∈ beforeFirst '?' url.toList)
    (hslash : isSlash c = false) (hsegment : c ∉ metadataSegment) :
    c ∈ (serviceRoot url).toList := by
  -- neither run of slashes takes the character, so only the segment between them could
  have hroot := mem_dropEndWhile h hslash
  rw [serviceRoot, String.toList_ofList]
  refine mem_dropEndWhile ?_ hslash
  split
  · next hends =>
    obtain ⟨before, hbefore⟩ := List.isSuffixOf_iff_suffix.mp hends
    rw [← hbefore] at hroot ⊢
    rw [List.length_append, Nat.add_sub_cancel, List.take_left']
    · exact (List.mem_append.mp hroot).resolve_right hsegment
    · rfl
  · exact hroot

/-! ## Documents below a base -/

variable (base : Base) {before : List Char} (rest : List Char)

/-- What is split off a trimmed URL below a base. -/
theorem split_trimWhile_below :
    ∃ query fragment, Url.split (trimWhile isBlank (base.chars ++ '/' :: rest)) =
      .ok ⟨base.scheme.map asciiLower, base.authority,
        base.path ++ '/' :: Base.pathBelow (dropEndWhile isBlank rest), query, fragment⟩ := by
  rw [Base.trimWhile_append]
  exact Base.split_append base _

/-- The URL of a metadata document leads to itself, however it is spelled. -/
theorem metadataUrl_of_isMetadataPath (hbefore : ∀ c ∈ before, isBlank c = true)
    (h : isMetadataPath (base.path ++ '/' :: Base.pathBelow (dropEndWhile isBlank rest)) = true) :
    metadataUrl (String.ofList (before ++ (base.chars ++ '/' :: rest))) =
      .ok (String.ofList (before ++ (base.chars ++ '/' :: rest))) := by
  obtain ⟨query, fragment, hsplit⟩ := split_trimWhile_below base rest
  have htrim := @Text.trimWhile_append isBlank (base.chars ++ '/' :: rest) before [] hbefore
    fun c hc => absurd hc List.not_mem_nil
  rw [List.append_nil] at htrim
  rw [metadataUrl, String.toList_ofList, htrim, hsplit]
  dsimp only
  rw [if_pos h]

/-! ## Services -/

/-- The last segment of a path has the ending of a service, and no other segment has it. -/
def EndsInService (path : List Char) : Prop :=
  ∃ before last, pieces '/' path = before ++ [last] ∧ endsWith serviceEnding last = true ∧
    ∀ segment ∈ before, endsWith serviceEnding segment = false

/-- The path of a service is found again in every path below it. -/
theorem EndsInService.cutWord?_append {path : List Char} (h : EndsInService path)
    (rest : List Char) :
    ∃ stem, path = stem ++ serviceEnding ∧
      cutWord? (serviceEnding ++ ['/']) (path ++ '/' :: rest) = some (stem, rest) := by
  obtain ⟨before, last, hpieces, hlast, hbefore⟩ := h
  have hslash : ∀ segment ∈ before ++ [last], '/' ∉ segment := fun segment hmem =>
    notMem_of_mem_pieces (hpieces ▸ hmem)
  have hothers : ∀ segment ∈ before, '/' ∉ segment ∧ endsWith serviceEnding segment = false :=
    fun segment hmem => ⟨hslash segment (List.mem_append_left _ hmem), hbefore segment hmem⟩
  have hmine : '/' ∉ last ∧ endsWith serviceEnding last = true :=
    ⟨hslash last (List.mem_append_right _ (List.mem_singleton_self _)), hlast⟩
  have hpath : joinWith ['/'] (before ++ [last]) = path := by rw [← hpieces, joinWith_pieces]
  obtain ⟨stem, hstem, hcut⟩ := cutWord?_joinWith (by decide) hothers hmine rest
  rw [hpath] at hstem hcut
  exact ⟨stem, hstem, hcut⟩

theorem EndsInService.rootPath_append {path : List Char} (h : EndsInService path)
    (rest : List Char) : rootPath (path ++ '/' :: rest) = path := by
  obtain ⟨stem, hstem, hcut⟩ := h.cutWord?_append rest
  rw [rootPath, hcut, hstem]

theorem EndsInService.getLast? {path : List Char} (h : EndsInService path) :
    ∀ c ∈ path.getLast?, c ≠ '/' := by
  obtain ⟨stem, rfl, -⟩ := h.cutWord?_append []
  intro c hc
  rw [List.getLast?_append] at hc
  cases hc
  decide

/-- **Below a service, a URL that leads to no metadata document leads to that of the service.** -/
theorem metadataUrl_below (hlower : base.scheme.map asciiLower = base.scheme)
    (hservice : EndsInService base.path)
    (h : isMetadataPath (base.path ++ '/' :: Base.pathBelow (dropEndWhile isBlank rest)) = false) :
    metadataUrl (String.ofList (base.chars ++ '/' :: rest)) =
      .ok (base.text ++ "/$metadata") := by
  obtain ⟨query, fragment, hsplit⟩ := split_trimWhile_below base rest
  rw [metadataUrl, String.toList_ofList, hsplit]
  dsimp only
  rw [if_neg (Bool.eq_false_iff.mp h), hservice.rootPath_append, hlower, Base.join_append,
    text_append_metadata]

end ODataExplorer.Query
