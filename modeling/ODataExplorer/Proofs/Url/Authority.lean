import ODataExplorer.Proofs.Url.Split

/-!
URLs with an authority.

What is split off a text with an authority are parts of a certain form (`hasAuthority_of_split`),
and of that form nothing is lost: the parts, written one behind the other, are the parts that are
split off again, whatever path they are given (`split_front`). Joining writes them in this way
(`join_eq_front`), so a URL that was taken apart and joined can be taken apart again.
-/

namespace ODataExplorer.Url

open Text

/-! ## Schemes in lower case -/

/-- The lower case of a character of a scheme is one, and a letter stays a letter. -/
theorem asciiLower_of_isSchemeChar {c : Char} (h : isSchemeChar c = true) :
    isSchemeChar (asciiLower c) = true ∧ asciiLower (asciiLower c) = asciiLower c ∧
      (isAsciiLetter c = true → isAsciiLetter (asciiLower c) = true) := by
  have hall : ∀ n < 0x80, isSchemeChar (Char.ofNat n) = true →
      isSchemeChar (asciiLower (Char.ofNat n)) = true ∧
        asciiLower (asciiLower (Char.ofNat n)) = asciiLower (Char.ofNat n) ∧
        (isAsciiLetter (Char.ofNat n) = true →
          isAsciiLetter (asciiLower (Char.ofNat n)) = true) := by
    decide +kernel
  have hc := hall c.toNat (toNat_of_isSchemeChar h).2
  rw [Char.ofNat_toNat] at hc
  exact hc h

/-- A scheme in lower case: nothing, or a letter and characters of a scheme. -/
structure IsScheme (scheme : List Char) : Prop where
  letter : ∀ c ∈ scheme.head?, isAsciiLetter c = true
  chars : ∀ c ∈ scheme, isSchemeChar c = true
  lower : scheme.map asciiLower = scheme

theorem isScheme_nil : IsScheme [] := ⟨nofun, nofun, rfl⟩

/-- What is cut off as a scheme is one. -/
theorem isScheme_cutScheme (cs : List Char) : IsScheme (cutScheme cs).1 := by
  fun_cases cutScheme cs with
  | case1 before after hcut hscheme =>
    obtain ⟨hletter, hchars⟩ := Bool.and_eq_true_iff.mp hscheme
    rw [List.all_eq_true] at hchars
    refine ⟨fun c hc => ?_, fun c hc => ?_, ?_⟩
    · rw [List.head?_map] at hc
      obtain ⟨first, hfirst, rfl⟩ := Option.map_eq_some_iff.mp hc
      rw [hfirst] at hletter
      exact (asciiLower_of_isSchemeChar (hchars first (List.mem_of_head? hfirst))).2.2 hletter
    · obtain ⟨given, hgiven, rfl⟩ := List.mem_map.mp hc
      exact (asciiLower_of_isSchemeChar (hchars given hgiven)).1
    · rw [List.map_map]
      exact List.map_congr_left fun c hc => (asciiLower_of_isSchemeChar (hchars c hc)).2.1
  | case2 => exact isScheme_nil
  | case3 => exact isScheme_nil

/-! ## Parts with an authority -/

/-- Parts with an authority, in the form in which splitting gives them. -/
structure Parts.HasAuthority (parts : Parts) : Prop where
  isScheme : IsScheme parts.scheme
  authority_ne_nil : parts.authority ≠ []
  authorityChars : ∀ c ∈ parts.authority, endsAuthority c = false ∧ isRemoved c = false
  brackets : checkBrackets parts.authority = .ok ()
  disguises : checkDisguises parts.authority = .ok ()
  rooted : ∀ c ∈ parts.path.head?, c = '/'
  pathChars : ∀ c ∈ parts.path, c ≠ '?' ∧ c ≠ '#' ∧ isRemoved c = false

/-- The text of a scheme, an authority and a path, one behind the other. -/
def Parts.front (parts : Parts) : List Char :=
  (if parts.scheme = [] then [] else parts.scheme ++ [':']) ++
    '/' :: '/' :: (parts.authority ++ parts.path)

/-- The same authority with another path, and nothing behind the path. -/
def Parts.withPath (parts : Parts) (path : List Char) : Parts :=
  ⟨parts.scheme, parts.authority, path, [], []⟩

theorem Parts.front_withPath_append (parts : Parts) (path rest : List Char) :
    (parts.withPath (path ++ rest)).front = (parts.withPath path).front ++ rest := by
  rw [front, front, withPath, withPath, List.append_assoc, List.cons_append, List.cons_append,
    List.append_assoc]

/-! ## Parts that are split off -/

variable {url : List Char} {parts : Parts}

theorem mem_of_mem_cleaned {c : Char} (h : c ∈ cleaned url) : c ∈ url ∧ isRemoved c = false := by
  obtain ⟨hmem, hkept⟩ := List.mem_filter.mp h
  exact ⟨(List.dropWhile_sublist _).subset hmem, by simpa using hkept⟩

/-- The text behind a scheme holds nothing but what the text holds. -/
theorem mem_of_mem_cutScheme {cs : List Char} {c : Char} (h : c ∈ (cutScheme cs).2) : c ∈ cs := by
  obtain ⟨before, -, hcs⟩ := exists_before_cutScheme cs
  rw [hcs]
  exact List.mem_append_right _ h

/-- What is split off a text: its authority, a path that the authority ends before, and the two
checks on the authority. -/
theorem parts_of_split (h : split url = .ok parts) :
    parts.scheme = (cutScheme (cleaned url)).1 ∧ parts.authority = authorityIn url ∧
      parts.path = beforeFirst '?' (beforeFirst '#' (belowAuthority url)) ∧
      checkBrackets parts.authority = .ok () ∧ checkDisguises parts.authority = .ok () := by
  rw [split_eq] at h
  obtain ⟨⟨⟩, hbrackets, h⟩ := bind_eq_ok.mp h
  obtain ⟨⟨⟩, hdisguises, h⟩ := bind_eq_ok.mp h
  cases h
  exact ⟨rfl, rfl, rfl, hbrackets, hdisguises⟩

/-- An authority that is cut off holds nothing that ends one, and what is left begins with that. -/
theorem cutAuthority_cases (cs : List Char) :
    (∀ c ∈ (cutAuthority cs).1, c ∈ cs ∧ endsAuthority c = false) ∧
      ((cutAuthority cs).1 ≠ [] → ∀ c ∈ (cutAuthority cs).2.head?, endsAuthority c = true) := by
  fun_cases cutAuthority cs with
  | case1 cs =>
    refine ⟨fun c hc => ⟨?_, ?_⟩, fun _ c hc => ?_⟩
    · have hmem : c ∈ cs := (List.takeWhile_sublist _).subset hc
      exact List.mem_cons_of_mem _ (List.mem_cons_of_mem _ hmem)
    · simpa using List.mem_takeWhile_imp hc
    · have hnot := List.head?_dropWhile_not (!endsAuthority ·) cs
      rw [Option.mem_def.mp hc] at hnot
      simpa using hnot
  | case2 => exact ⟨fun c hc => absurd hc List.not_mem_nil, fun hne => absurd rfl hne⟩

/-- What stands before two marks begins as the text does, or is empty. -/
theorem head?_of_mem_beforeFirst {sep c : Char} {cs : List Char}
    (h : c ∈ (beforeFirst sep cs).head?) : c ∈ cs.head? ∧ c ≠ sep := by
  cases cs with
  | nil => cases h
  | cons first rest =>
    by_cases hfirst : first = sep
    · rw [hfirst, beforeFirst_cons_self] at h
      cases h
    · have hnext : beforeFirst sep (first :: rest) = first :: beforeFirst sep rest :=
        List.takeWhile_cons_of_pos (bne_iff_ne.mpr hfirst)
      rw [hnext] at h
      cases h
      exact ⟨rfl, hfirst⟩

theorem mem_of_mem_beforeFirst {sep c : Char} {cs : List Char} (h : c ∈ beforeFirst sep cs) :
    c ∈ cs ∧ c ≠ sep := by
  have hstays := List.mem_takeWhile_imp h
  exact ⟨(List.takeWhile_sublist _).subset h, by simpa using hstays⟩

/-- The characters of an authority and a path that are split off are those of the text, without the
ones that are removed. -/
theorem mem_of_split (h : split url = .ok parts) {c : Char}
    (hc : c ∈ parts.authority ∨ c ∈ parts.path) : c ∈ url ∧ isRemoved c = false := by
  obtain ⟨-, hauthority, hpath, -, -⟩ := parts_of_split h
  have hbelow : c ∈ (cutScheme (cleaned url)).2 := by
    rcases hc with hc | hc
    · rw [hauthority] at hc
      exact ((cutAuthority_cases _).1 c hc).1
    · rw [hpath] at hc
      obtain ⟨before, -, hbefore⟩ := exists_before_cutAuthority (cutScheme (cleaned url)).2
      rw [hbefore]
      exact List.mem_append_right _ (mem_of_mem_beforeFirst (mem_of_mem_beforeFirst hc).1).1
  exact mem_of_mem_cleaned (mem_of_mem_cutScheme hbelow)

/-- **What is split off a text with an authority** has the form of such parts. -/
theorem hasAuthority_of_split (h : split url = .ok parts) (hne : parts.authority ≠ []) :
    parts.HasAuthority := by
  obtain ⟨hscheme, hauthority, hpath, hbrackets, hdisguises⟩ := parts_of_split h
  obtain ⟨hstays, hends⟩ := cutAuthority_cases (cutScheme (cleaned url)).2
  refine ⟨hscheme ▸ isScheme_cutScheme _, hne, fun c hc => ⟨?_, (mem_of_split h (.inl hc)).2⟩,
    hbrackets, hdisguises, fun c hc => ?_, fun c hc => ?_⟩
  · rw [hauthority] at hc
    exact (hstays c hc).2
  · -- of the three characters that end an authority, two end the path as well
    rw [hpath] at hc
    obtain ⟨hc, hquery⟩ := head?_of_mem_beforeFirst hc
    obtain ⟨hc, hfragment⟩ := head?_of_mem_beforeFirst hc
    rw [hauthority] at hne
    have hend := hends hne c hc
    simpa [endsAuthority, hquery, hfragment] using hend
  · refine ⟨?_, ?_, (mem_of_split h (.inr hc)).2⟩
    · rw [hpath] at hc
      exact (mem_of_mem_beforeFirst hc).2
    · rw [hpath] at hc
      exact (mem_of_mem_beforeFirst (mem_of_mem_beforeFirst hc).1).2

/-! ## Parts that are written -/

namespace Parts.HasAuthority

variable {rest : List Char}

/-- Another path makes parts of the same form. -/
theorem withPath (h : parts.HasAuthority) {path : List Char} (hrooted : ∀ c ∈ path.head?, c = '/')
    (hpath : ∀ c ∈ path, c ≠ '?' ∧ c ≠ '#' ∧ isRemoved c = false) :
    (parts.withPath path).HasAuthority :=
  ⟨h.isScheme, h.authority_ne_nil, h.authorityChars, h.brackets, h.disguises, hrooted, hpath⟩

/-- The first character of the text is a letter or a slash. -/
theorem head?_front (h : parts.HasAuthority) :
    ∀ c ∈ parts.front.head?, isSchemeChar c = true ∨ c = '/' := by
  intro c hc
  rw [Parts.front] at hc
  split at hc
  · cases hc
    exact .inr rfl
  · next hne =>
    obtain ⟨first, others, hscheme⟩ := List.exists_cons_of_ne_nil hne
    rw [hscheme] at hc
    have hfirst : first = c := Option.some.inj hc
    exact .inl (hfirst ▸ h.isScheme.chars first (hscheme ▸ List.mem_cons_self))

theorem mem_front {c : Char} (h : c ∈ parts.front) :
    c ∈ parts.scheme ∨ c = ':' ∨ c = '/' ∨ c ∈ parts.authority ∨ c ∈ parts.path := by
  simp only [Parts.front, List.mem_append, List.mem_cons] at h
  split at h
  · grind
  · grind

/-- No query begins in the text. -/
theorem notMem_front (h : parts.HasAuthority) : '?' ∉ parts.front := by
  intro hmem
  rcases mem_front hmem with hmem | heq | heq | hmem | hmem
  · cases h.isScheme.chars _ hmem
  · cases heq
  · cases heq
  · cases (h.authorityChars _ hmem).1
  · exact (h.pathChars _ hmem).1 rfl

/-- Nothing is cleaned away from the text. -/
theorem cleaned_front (h : parts.HasAuthority) : cleaned parts.front = parts.front := by
  have hvisible : ∀ c ∈ parts.front.head?, 0x20 < c.toNat := fun c hc => by
    rcases h.head?_front c hc with hscheme | rfl
    · exact (toNat_of_isSchemeChar hscheme).1
    · decide
  rw [cleaned_eq_filter hvisible, List.filter_eq_self]
  intro c hc
  rw [Bool.not_eq_true']
  rcases mem_front hc with hc | rfl | rfl | hc | hc
  · exact isRemoved_of_isPathChar (isPathChar_of_isSchemeChar (h.isScheme.chars c hc))
  · decide
  · decide
  · exact (h.authorityChars c hc).2
  · exact (h.pathChars c hc).2.2

theorem cutScheme_front (h : parts.HasAuthority) :
    cutScheme parts.front = (parts.scheme, '/' :: '/' :: (parts.authority ++ parts.path)) := by
  rw [Parts.front]
  split
  · next hnone =>
    -- a slash in front of the first colon is no letter
    rw [hnone, List.nil_append]
    fun_cases cutScheme ('/' :: '/' :: (parts.authority ++ parts.path)) with
    | case1 before after hcut hscheme =>
      obtain ⟨-, hcs⟩ := cut?_eq_some_iff.mp hcut
      cases before with
      | nil => cases hcs
      | cons first before =>
        obtain ⟨rfl, -⟩ := List.cons.inj hcs
        cases hscheme
    | case2 => rfl
    | case3 => rfl
  · next hne =>
    have hletter : parts.scheme.head?.any isAsciiLetter = true := by
      obtain ⟨first, others, hscheme⟩ := List.exists_cons_of_ne_nil hne
      rw [hscheme]
      exact h.isScheme.letter first (by rw [hscheme]; rfl)
    rw [List.append_assoc, List.singleton_append,
      cutScheme_of_isSchemeChar hletter h.isScheme.chars, h.isScheme.lower]

/-- **Parts with an authority are split off again** from the text that they make. -/
theorem split_front (h : parts.HasAuthority) :
    split parts.front = .ok (parts.withPath parts.path) := by
  have hends : ∀ c ∈ parts.path.head?, endsAuthority c = true := fun c hc => by
    rw [h.rooted c hc]
    rfl
  have hquery : '?' ∉ parts.path := fun hmem => (h.pathChars _ hmem).1 rfl
  have hfragment : '#' ∉ parts.path := fun hmem => (h.pathChars _ hmem).2.1 rfl
  rw [split, h.cleaned_front, h.cutScheme_front]
  dsimp only
  rw [cutAuthority_of_endsAuthority (fun c hc => (h.authorityChars c hc).1) hends]
  dsimp only
  rw [h.brackets, h.disguises, cut?_eq_none_iff.mpr hfragment]
  dsimp only [Option.getD_none]
  rw [cut?_eq_none_iff.mpr hquery]
  rfl

/-- Joining writes the parts one behind the other. -/
theorem join_eq_front (h : parts.HasAuthority) :
    join parts.scheme parts.authority parts.path = parts.front := by
  have hauthority : parts.authority.isEmpty = false :=
    List.isEmpty_eq_false_iff.mpr h.authority_ne_nil
  have hrooted : Url.rooted parts.path = parts.path := by
    rw [Url.rooted]
    cases hpath : parts.path with
    | nil => rfl
    | cons first path =>
      rw [h.rooted first (by rw [hpath]; rfl)]
      rfl
  rw [join, Parts.front, hauthority, hrooted]
  by_cases hscheme : parts.scheme = []
  · simp [hscheme]
  · simp [hscheme]

/-- The text does not end in a slash if its path does not. -/
theorem getLast?_front (h : parts.HasAuthority) (hpath : ∀ c ∈ parts.path.getLast?, c ≠ '/') :
    ∀ c ∈ parts.front.getLast?, c ≠ '/' := by
  have hfront : parts.front =
      (if parts.scheme = [] then [] else parts.scheme ++ [':']) ++ ['/', '/'] ++
        parts.authority ++ parts.path := by
    simp [Parts.front]
  intro c hc
  rw [hfront] at hc
  by_cases hnone : parts.path = []
  · rw [hnone, List.append_nil, List.getLast?_append_of_ne_nil _ h.authority_ne_nil] at hc
    rintro rfl
    cases (h.authorityChars _ (List.mem_of_getLast? hc)).1
  · rw [List.getLast?_append_of_ne_nil _ hnone] at hc
    exact hpath c hc

end Parts.HasAuthority

end ODataExplorer.Url
