import ODataExplorer.Proofs.Outcome
import ODataExplorer.Proofs.Url.Base

/-!
What splitting a URL depends on.

Any text is split as soon as its authority passes the two checks, so a text is refused for its
authority or not at all (`isOk_split_iff`). And scheme and authority take no mark of a query or a
fragment with them, so the query is what stands between the first question mark and the first number
sign of the whole text, wherever the path begins (`query_of_split`).

What follows a text behind a slash has no part in its scheme or its authority, unless the text ends
in a slash or another slash follows (`authorityIn_append`).
-/

namespace ODataExplorer.Url

open Text

/-! ## Marks -/

/-- A text without the marks that begin a query and a fragment. -/
def IsUnmarked (cs : List Char) : Prop := '?' ∉ cs ∧ '#' ∉ cs

instance (cs : List Char) : Decidable (IsUnmarked cs) := inferInstanceAs (Decidable (_ ∧ _))

theorem isUnmarked_append {before after : List Char} :
    IsUnmarked (before ++ after) ↔ IsUnmarked before ∧ IsUnmarked after := by
  simp only [IsUnmarked, List.mem_append, not_or]
  exact and_and_and_comm

/-- What stands between the first question mark and the first number sign. -/
def queryIn (cs : List Char) : List Char :=
  ((cut? '?' (beforeFirst '#' cs)).map Prod.snd).getD []

variable {cs before : List Char}

/-- A text without marks in front makes no difference to the query. -/
theorem queryIn_append (h : IsUnmarked before) (cs : List Char) :
    queryIn (before ++ cs) = queryIn cs := by
  rw [queryIn, beforeFirst_append h.2, cut?_append_of_notMem h.1, Option.map_map, queryIn]
  cases cut? '?' (beforeFirst '#' cs) <;> rfl

theorem queryIn_of_isUnmarked (h : IsUnmarked cs) : queryIn cs = [] := by
  rw [← List.append_nil cs, queryIn_append h]
  rfl

/-- A number sign ends the query. -/
theorem queryIn_append_of_mem (h : '#' ∈ cs) (after : List Char) :
    queryIn (cs ++ after) = queryIn cs := by
  obtain ⟨before, rest, rfl, hbefore⟩ := List.eq_append_cons_of_mem h
  have hcut : ∀ rest, beforeFirst '#' (before ++ '#' :: rest) = before := by
    intro rest
    rw [beforeFirst_append hbefore, beforeFirst_cons_self, List.append_nil]
  rw [queryIn, List.append_assoc, List.cons_append, hcut, queryIn, hcut]

/-- Without a number sign the query is all that follows the first question mark. -/
theorem queryIn_append_cons (hbefore : IsUnmarked before) (h : '#' ∉ cs) :
    queryIn (before ++ '?' :: cs) = cs := by
  have hmark : '#' ∉ '?' :: cs := List.not_mem_cons_of_ne_of_not_mem (by decide) h
  have hcs : beforeFirst '#' ('?' :: cs) = '?' :: cs := by
    have hall := beforeFirst_append hmark []
    rwa [List.append_nil, beforeFirst, beforeFirst, List.takeWhile_nil, List.append_nil] at hall
  rw [queryIn_append hbefore, queryIn, hcs, cut?, if_pos (beq_self_eq_true _)]
  rfl

/-! ## Scheme and authority -/

/-- The authority that a text announces. -/
def authorityIn (url : List Char) : List Char :=
  (cutAuthority (cutScheme (cleaned url)).2).1

/-- The path of a text and what follows it. -/
def belowAuthority (url : List Char) : List Char :=
  (cutAuthority (cutScheme (cleaned url)).2).2

theorem isUnmarked_of_isSchemeChar (h : ∀ c ∈ cs, isSchemeChar c = true) : IsUnmarked cs := by
  constructor
  · intro hmem
    cases h _ hmem
  · intro hmem
    cases h _ hmem

/-- What is cut off as a scheme holds no mark. -/
theorem exists_before_cutScheme (cs : List Char) :
    ∃ before, IsUnmarked before ∧ cs = before ++ (cutScheme cs).2 := by
  fun_cases cutScheme cs with
  | case1 before after hcut hscheme =>
    obtain ⟨-, hall⟩ := Bool.and_eq_true_iff.mp hscheme
    obtain ⟨-, hcs⟩ := cut?_eq_some_iff.mp hcut
    refine ⟨before ++ [':'], isUnmarked_append.mpr ⟨?_, by decide⟩, by simpa using hcs⟩
    exact isUnmarked_of_isSchemeChar (List.all_eq_true.mp hall)
  | case2 => exact ⟨[], by decide, rfl⟩
  | case3 => exact ⟨[], by decide, rfl⟩

/-- What is cut off as an authority holds no mark. -/
theorem exists_before_cutAuthority (cs : List Char) :
    ∃ before, IsUnmarked before ∧ cs = before ++ (cutAuthority cs).2 := by
  fun_cases cutAuthority cs with
  | case1 cs =>
    have hends : ∀ c ∈ cs.takeWhile (!endsAuthority ·), endsAuthority c = false := by
      intro c hc
      have hstays := List.mem_takeWhile_imp hc
      simpa using hstays
    have htaken : IsUnmarked (cs.takeWhile (!endsAuthority ·)) :=
      ⟨fun hmem => (nomatch hends _ hmem), fun hmem => (nomatch hends _ hmem)⟩
    refine ⟨['/', '/'] ++ cs.takeWhile (!endsAuthority ·),
      isUnmarked_append.mpr ⟨by decide, htaken⟩, ?_⟩
    rw [List.append_assoc, List.takeWhile_append_dropWhile]
    rfl
  | case2 => exact ⟨[], by decide, rfl⟩

/-- Neither scheme nor authority takes a mark, so the query is that of the whole text. -/
theorem queryIn_belowAuthority (url : List Char) :
    queryIn (belowAuthority url) = queryIn (cleaned url) := by
  obtain ⟨first, hfirst, hscheme⟩ := exists_before_cutScheme (cleaned url)
  obtain ⟨second, hsecond, hauthority⟩ := exists_before_cutAuthority (cutScheme (cleaned url)).2
  calc queryIn (belowAuthority url)
      = queryIn (second ++ belowAuthority url) := (queryIn_append hsecond _).symm
    _ = queryIn (cutScheme (cleaned url)).2 := congrArg queryIn hauthority.symm
    _ = queryIn (first ++ (cutScheme (cleaned url)).2) := (queryIn_append hfirst _).symm
    _ = queryIn (cleaned url) := congrArg queryIn hscheme.symm

/-! ## Splitting -/

theorem snd_getD_cut?_beforeFirst (cs : List Char) :
    ((cut? '?' (beforeFirst '#' cs)).getD (beforeFirst '#' cs, [])).2 = queryIn cs := by
  rw [queryIn]
  cases cut? '?' (beforeFirst '#' cs) <;> rfl

/-- What splitting a text comes to. -/
theorem split_eq (url : List Char) :
    split url =
      (do
        checkBrackets (authorityIn url)
        checkDisguises (authorityIn url)
        return {
          scheme := (cutScheme (cleaned url)).1
          authority := authorityIn url
          path := beforeFirst '?' (beforeFirst '#' (belowAuthority url))
          query := queryIn (cleaned url)
          fragment := ((cut? '#' (belowAuthority url)).getD (belowAuthority url, [])).2 }) := by
  rw [← queryIn_belowAuthority, ← snd_getD_cut?_beforeFirst, ← fst_getD_cut? '?',
    ← fst_getD_cut? '#']
  rfl

/-- **Only its authority can make a text one that is not split.** -/
theorem isOk_split_iff (url : List Char) :
    (∃ parts, split url = .ok parts) ↔
      checkBrackets (authorityIn url) = .ok () ∧ checkDisguises (authorityIn url) = .ok () := by
  rw [split_eq]
  constructor
  · rintro ⟨parts, hsplit⟩
    obtain ⟨⟨⟩, hbrackets, hsplit⟩ := bind_eq_ok.mp hsplit
    obtain ⟨⟨⟩, hdisguises, -⟩ := bind_eq_ok.mp hsplit
    exact ⟨hbrackets, hdisguises⟩
  · rintro ⟨hbrackets, hdisguises⟩
    rw [hbrackets, hdisguises]
    exact ⟨_, rfl⟩

/-- **The query of a text stands between its first question mark and its first number sign,**
once blanks are removed. -/
theorem query_of_split {url : List Char} {parts : Parts} (h : split url = .ok parts) :
    parts.query = queryIn (cleaned url) := by
  rw [split_eq] at h
  obtain ⟨⟨⟩, -, h⟩ := bind_eq_ok.mp h
  obtain ⟨⟨⟩, -, h⟩ := bind_eq_ok.mp h
  cases h
  rfl

/-! ## Going on behind a slash -/

variable {root : List Char}

/-- What follows behind a slash makes no scheme and undoes none. -/
theorem cutScheme_append_slash (root cs : List Char) :
    (cutScheme (root ++ '/' :: cs)).2 = (cutScheme root).2 ++ '/' :: cs := by
  by_cases hcolon : ':' ∈ root
  · obtain ⟨before, after, rfl, hbefore⟩ := List.eq_append_cons_of_mem hcolon
    rw [cutScheme, cutScheme, List.append_assoc, List.cons_append, cut?_append hbefore,
      cut?_append hbefore]
    dsimp only
    split
    · rfl
    · rw [List.append_assoc, List.cons_append]
  · have hroot : cutScheme root = ([], root) := by rw [cutScheme, cut?_eq_none_iff.mpr hcolon]
    rw [hroot, cutScheme, cut?_append_of_notMem hcolon, cut?, if_neg (by decide)]
    cases cut? ':' cs with
    | none => rfl
    | some found =>
      have hslash : (root ++ '/' :: found.1).all isSchemeChar = false := by
        rw [List.all_append, List.all_cons]
        exact (congrArg _ (Bool.false_and _)).trans (Bool.and_false _)
      simp only [Option.map_some, hslash, Bool.and_false, Bool.false_eq_true, if_false]

/-- What follows behind a slash is no part of the authority, unless the slash makes one. -/
theorem cutAuthority_append_slash {cs : List Char} (hroot : ∀ c ∈ root.getLast?, c ≠ '/')
    (hcs : ∀ c ∈ cs.head?, c ≠ '/') :
    (cutAuthority (root ++ '/' :: cs)).1 = (cutAuthority root).1 := by
  fun_cases cutAuthority root with
  | case1 after =>
    have hends : ('/' :: cs).takeWhile (!endsAuthority ·) = [] :=
      List.takeWhile_cons_of_neg (by decide)
    rw [List.cons_append, List.cons_append, cutAuthority, List.takeWhile_append, hends,
      List.append_nil]
    split
    · next hall => exact ((List.takeWhile_sublist _).eq_of_length hall).symm
    · rfl
  | case2 _ hnone =>
    rw [cutAuthority]
    intro after hafter
    -- two slashes that begin the whole would begin the root, or its end, or what follows
    cases root with
    | nil =>
      rw [(List.cons.inj hafter).2] at hcs
      exact hcs '/' rfl rfl
    | cons first root =>
      obtain ⟨rfl, htail⟩ := List.cons.inj hafter
      cases root with
      | nil => exact hroot '/' rfl rfl
      | cons second rest =>
        obtain ⟨rfl, -⟩ := List.cons.inj htail
        exact hnone rest rfl

/-- A visible character is not removed. -/
theorem filter_isRemoved_of_visible (h : ∀ c ∈ root, 0x20 < c.toNat) :
    root.filter (!isRemoved ·) = root := by
  refine List.filter_eq_self.mpr fun c hc => ?_
  have hlow := h c hc
  rw [Bool.not_eq_true', Bool.eq_false_iff]
  intro hremoved
  simp only [isRemoved, Bool.or_eq_true, beq_iff_eq] at hremoved
  rcases hremoved with (rfl | rfl) | rfl <;> exact absurd hlow (by decide)

theorem cleaned_eq_self (h : ∀ c ∈ root, 0x20 < c.toNat) : cleaned root = root := by
  rw [cleaned_eq_filter fun c hc => h c (List.mem_of_head? hc), filter_isRemoved_of_visible h]

/-- Cleaning leaves visible characters alone. -/
theorem cleaned_append_slash (h : ∀ c ∈ root, 0x20 < c.toNat) (cs : List Char) :
    cleaned (root ++ '/' :: cs) = root ++ '/' :: cs.filter (!isRemoved ·) := by
  have hfirst : ∀ c ∈ (root ++ '/' :: cs).head?, 0x20 < c.toNat := by
    cases root with
    | nil => exact fun c hc => Option.some.inj hc ▸ by decide
    | cons first root => exact fun c hc => Option.some.inj hc ▸ h first List.mem_cons_self
  rw [cleaned_eq_filter hfirst, List.filter_append, filter_isRemoved_of_visible h,
    List.filter_cons_of_pos rfl]

/-- **What follows behind a slash has no part in the authority** of a text that does not end in a
slash itself, unless it begins with another slash. -/
theorem authorityIn_append (hvisible : ∀ c ∈ root, 0x20 < c.toNat)
    (hroot : ∀ c ∈ root.getLast?, c ≠ '/') {cs : List Char}
    (hcs : ∀ c ∈ (cs.filter (!isRemoved ·)).head?, c ≠ '/') :
    authorityIn (root ++ '/' :: cs) = authorityIn root := by
  have hsuffix : ∀ c ∈ (cutScheme root).2.getLast?, c ≠ '/' := by
    obtain ⟨before, -, hbefore⟩ := exists_before_cutScheme root
    intro c hc
    refine hroot c ?_
    rw [hbefore, List.getLast?_append, hc]
    rfl
  rw [authorityIn, cleaned_append_slash hvisible, cutScheme_append_slash,
    cutAuthority_append_slash hsuffix hcs, authorityIn, cleaned_eq_self hvisible]

end ODataExplorer.Url
