import ODataExplorer.Proofs.Text.Split
import ODataExplorer.Proofs.Text.Trim
import ODataExplorer.Url.Parts

/-!
What follows a URL.

A base is a URL of which splitting takes nothing away: a scheme, an authority and a path, without
blanks and without the marks of a query and a fragment. Main statement: whatever follows a base
behind a slash, splitting the whole finds the parts of the base, and the path goes on with what
stands before the first such mark (`Base.split_append`).
-/

namespace ODataExplorer.Url

open Text

/-! ## Characters -/

/-- A character that a path may hold wherever it stands: no blank, and no mark that ends a path. -/
def isPathChar (c : Char) : Bool := c != '?' && c != '#' && !isBlank c

theorem isPathChar_iff {c : Char} :
    isPathChar c = true ↔ c ≠ '?' ∧ c ≠ '#' ∧ isBlank c = false := by
  simp [isPathChar, and_assoc]

theorem isBlank_of_isPathChar {c : Char} (h : isPathChar c = true) : isBlank c = false :=
  (isPathChar_iff.mp h).2.2

theorem isPathChar_of_isBlank {c : Char} (h : isBlank c = true) : isPathChar c = false := by
  rw [isPathChar, h, Bool.not_true, Bool.and_false]

/-- Other characters do not occur among those of paths. -/
theorem notMem_of_isPathChar {c : Char} {cs : List Char} (h : ∀ d ∈ cs, isPathChar d = true)
    (hc : isPathChar c = false) : c ∉ cs := by
  intro hmem
  rw [h c hmem] at hc
  cases hc

theorem isBlank_of_isRemoved {c : Char} (h : isRemoved c = true) : isBlank c = true := by
  simp only [isRemoved, Bool.or_eq_true, beq_iff_eq] at h
  rcases h with (rfl | rfl) | rfl <;> rfl

/-- A character that a path may hold is never removed. -/
theorem isRemoved_of_isPathChar {c : Char} (h : isPathChar c = true) : isRemoved c = false := by
  rw [Bool.eq_false_iff]
  intro hremoved
  have hblank := isBlank_of_isRemoved hremoved
  rw [isBlank_of_isPathChar h] at hblank
  cases hblank

/-- Cleaning removes nothing but blanks. -/
theorem filter_isRemoved {cs : List Char} (h : ∀ c ∈ cs, isPathChar c = true) :
    cs.filter (!isRemoved ·) = cs := by
  refine List.filter_eq_self.mpr fun c hc => ?_
  rw [isRemoved_of_isPathChar (h c hc), Bool.not_false]

/-- Cleaning drops nothing at the beginning of a text whose first character can be seen. -/
theorem cleaned_eq_filter {cs : List Char} (h : ∀ c ∈ cs.head?, 0x20 < c.toNat) :
    cleaned cs = cs.filter (!isRemoved ·) := by
  cases cs with
  | nil => rfl
  | cons c cs =>
    have hlow : 0x20 < c.toNat := h c rfl
    rw [cleaned, List.dropWhile_cons_of_neg]
    rw [decide_eq_true_eq]
    omega

/-- A character of a scheme can be seen. -/
theorem toNat_of_isSchemeChar {c : Char} (h : isSchemeChar c = true) :
    0x20 < c.toNat ∧ c.toNat < 0x80 := by
  simp only [isSchemeChar, isAsciiLetter, Bool.or_eq_true, Bool.and_eq_true, decide_eq_true_eq,
    beq_iff_eq] at h
  rcases h with ((((⟨hlow, hhigh⟩ | ⟨hlow, hhigh⟩) | ⟨hlow, hhigh⟩) | rfl) | rfl) | rfl
  · have hbounds : 0x61 ≤ c.toNat ∧ c.toNat ≤ 0x7A := ⟨hlow, hhigh⟩
    omega
  · have hbounds : 0x41 ≤ c.toNat ∧ c.toNat ≤ 0x5A := ⟨hlow, hhigh⟩
    omega
  · have hbounds : 0x30 ≤ c.toNat ∧ c.toNat ≤ 0x39 := ⟨hlow, hhigh⟩
    omega
  all_goals decide

theorem isBlank_of_isSchemeChar {c : Char} (h : isSchemeChar c = true) : isBlank c = false := by
  obtain ⟨hlow, hhigh⟩ := toNat_of_isSchemeChar h
  rw [Bool.eq_false_iff]
  simp only [isBlank, Ne, Bool.or_eq_true, Bool.and_eq_true, decide_eq_true_eq, beq_iff_eq]
  omega

theorem ne_of_isSchemeChar {c mark : Char} (h : isSchemeChar c = true)
    (hmark : isSchemeChar mark = false) : c ≠ mark := by
  rintro rfl
  rw [h] at hmark
  cases hmark

theorem isPathChar_of_isSchemeChar {c : Char} (h : isSchemeChar c = true) : isPathChar c = true :=
  isPathChar_iff.mpr
    ⟨ne_of_isSchemeChar h rfl, ne_of_isSchemeChar h rfl, isBlank_of_isSchemeChar h⟩

/-! ## Cutting in front of a path -/

/-- A letter and characters of a scheme, in front of a colon, are cut off. -/
theorem cutScheme_of_isSchemeChar {scheme : List Char}
    (hletter : scheme.head?.any isAsciiLetter = true)
    (hchars : ∀ c ∈ scheme, isSchemeChar c = true) (rest : List Char) :
    cutScheme (scheme ++ ':' :: rest) = (scheme.map asciiLower, rest) := by
  have hcolon : ':' ∉ scheme := fun h =>
    ne_of_isSchemeChar (hchars _ h) (by decide : isSchemeChar ':' = false) rfl
  have hall : scheme.all isSchemeChar = true := List.all_eq_true.mpr hchars
  rw [cutScheme, cut?_append hcolon]
  dsimp only
  rw [hletter, hall]
  rfl

/-- Behind two slashes, what does not end an authority is cut off. -/
theorem cutAuthority_of_endsAuthority {authority rest : List Char}
    (hauthority : ∀ c ∈ authority, endsAuthority c = false)
    (hrest : ∀ c ∈ rest.head?, endsAuthority c = true) :
    cutAuthority ('/' :: '/' :: (authority ++ rest)) = (authority, rest) := by
  have hstays : ∀ c ∈ authority, (!endsAuthority c) = true := by simpa using hauthority
  rw [cutAuthority, List.takeWhile_append_of_pos hstays, List.dropWhile_append_of_pos hstays]
  cases rest with
  | nil => rw [List.takeWhile_nil, List.dropWhile_nil, List.append_nil]
  | cons c rest => simp [hrest c rfl]

/-! ## Bases -/

/-- A URL of a scheme, an authority that can be split off, and a path. -/
structure Base where
  scheme : List Char
  authority : List Char
  path : List Char
  letter : scheme.head?.any isAsciiLetter = true
  schemeChars : ∀ c ∈ scheme, isSchemeChar c = true
  authority_ne_nil : authority ≠ []
  authorityChars : ∀ c ∈ authority, isPathChar c = true
  authority_slash : '/' ∉ authority
  brackets : checkBrackets authority = .ok ()
  disguises : checkDisguises authority = .ok ()
  rooted : ∀ c ∈ path.head?, c = '/'
  pathChars : ∀ c ∈ path, isPathChar c = true

namespace Base

def chars (base : Base) : List Char :=
  base.scheme ++ ':' :: '/' :: '/' :: (base.authority ++ base.path)

def text (base : Base) : String := String.ofList base.chars

variable {base : Base} {c : Char}

theorem isPathChar_of_mem (h : c ∈ base.chars) : isPathChar c = true := by
  simp only [chars, List.mem_append, List.mem_cons] at h
  rcases h with h | rfl | rfl | rfl | h | h
  · exact isPathChar_of_isSchemeChar (base.schemeChars c h)
  · rfl
  · rfl
  · rfl
  · exact base.authorityChars c h
  · exact base.pathChars c h

/-- No query begins in a base. -/
theorem notMem_chars (base : Base) : '?' ∉ base.chars :=
  notMem_of_isPathChar (fun _ hc => isPathChar_of_mem hc) rfl

theorem exists_scheme_eq_cons (base : Base) : ∃ first others, base.scheme = first :: others := by
  have hletter := base.letter
  cases hscheme : base.scheme with
  | nil =>
    rw [hscheme] at hletter
    cases hletter
  | cons first others => exact ⟨first, others, rfl⟩

/-- A base begins with a character of its scheme. -/
theorem exists_chars_eq_cons (base : Base) :
    ∃ first rest, base.chars = first :: rest ∧ isSchemeChar first = true := by
  obtain ⟨first, others, hscheme⟩ := exists_scheme_eq_cons base
  refine ⟨first, others ++ ':' :: '/' :: '/' :: (base.authority ++ base.path), ?_,
    base.schemeChars first (hscheme ▸ List.mem_cons_self)⟩
  rw [chars, hscheme, List.cons_append]

/-- The path of a base does not end in a slash. -/
def HasNoEndSlash (base : Base) : Prop := ∀ c ∈ base.path.getLast?, c ≠ '/'

/-- A base does not end in a slash if its path does not. -/
theorem HasNoEndSlash.getLast?_chars (h : base.HasNoEndSlash) :
    ∀ c ∈ base.chars.getLast?, c ≠ '/' := by
  intro c hc
  have hchars : base.chars = base.scheme ++ [':', '/', '/'] ++ base.authority ++ base.path := by
    simp [chars]
  rw [hchars] at hc
  by_cases hpath : base.path = []
  · rw [hpath, List.append_nil, List.getLast?_append_of_ne_nil _ base.authority_ne_nil] at hc
    exact fun heq => base.authority_slash (heq ▸ List.mem_of_getLast? hc)
  · rw [List.getLast?_append_of_ne_nil _ hpath] at hc
    exact h c hc

/-- The path of a base ends the authority, and so does what goes on with it. -/
theorem head?_path_append (base : Base) (cs : List Char) :
    (base.path ++ '/' :: cs).head? = some '/' := by
  cases hpath : base.path with
  | nil => rfl
  | cons first path =>
    rw [List.cons_append, List.head?_cons, base.rooted first (by rw [hpath]; rfl)]

/-! ## Splitting -/

/-- What is left as a path of a text behind a slash. -/
def pathBelow (rest : List Char) : List Char :=
  beforeFirst '?' (beforeFirst '#' (rest.filter (!isRemoved ·)))

variable {kept tail : List Char}

theorem pathBelow_append (h : ∀ c ∈ kept, isPathChar c = true) :
    pathBelow (kept ++ tail) = kept ++ pathBelow tail := by
  rw [pathBelow, List.filter_append, filter_isRemoved h,
    beforeFirst_append (notMem_of_isPathChar h rfl),
    beforeFirst_append (notMem_of_isPathChar h rfl)]
  rfl

/-- A path ends before the blanks at the end of the text, and before a query or a fragment. -/
theorem pathBelow_dropEndWhile (h : ∀ c ∈ kept, isPathChar c = true)
    (htail : (∀ c ∈ tail, isBlank c = true) ∨ ∃ rest, tail = '?' :: rest ∨ tail = '#' :: rest) :
    pathBelow (dropEndWhile isBlank (kept ++ tail)) = kept := by
  rcases htail with hblank | ⟨rest, rfl | rfl⟩
  · have hlast : ∀ c ∈ kept.getLast?, isBlank c = false := fun c hc =>
      isBlank_of_isPathChar (h c (List.mem_of_getLast? hc))
    rw [dropEndWhile_append_of_pos hblank, dropEndWhile_eq_self hlast, ← List.append_nil kept,
      pathBelow_append h]
    rfl
  · rw [dropEndWhile_append rfl, pathBelow_append h, pathBelow, List.filter_cons_of_pos rfl]
    exact List.append_nil kept
  · rw [dropEndWhile_append rfl, pathBelow_append h, pathBelow, List.filter_cons_of_pos rfl,
      beforeFirst_cons_self]
    exact List.append_nil kept

variable (base) (rest : List Char)

/-- Trimming leaves a base and the slash behind it alone. -/
theorem trimWhile_append :
    trimWhile isBlank (base.chars ++ '/' :: rest) =
      base.chars ++ '/' :: dropEndWhile isBlank rest := by
  obtain ⟨first, others, hchars, hfirst⟩ := exists_chars_eq_cons base
  rw [trimWhile, ← dropEndWhile_append rfl base.chars rest, hchars, List.cons_append,
    List.dropWhile_cons_of_neg]
  rw [isBlank_of_isSchemeChar hfirst]
  exact Bool.false_ne_true

theorem cleaned_append :
    cleaned (base.chars ++ '/' :: rest) = base.chars ++ '/' :: rest.filter (!isRemoved ·) := by
  have hkept : base.chars.filter (!isRemoved ·) = base.chars :=
    filter_isRemoved fun c hc => isPathChar_of_mem hc
  have hfirst : ∀ c ∈ (base.chars ++ '/' :: rest).head?, 0x20 < c.toNat := by
    obtain ⟨first, others, hchars, hscheme⟩ := exists_chars_eq_cons base
    rw [hchars]
    exact fun c hc => Option.some.inj hc ▸ (toNat_of_isSchemeChar hscheme).1
  rw [cleaned_eq_filter hfirst, List.filter_append, hkept, List.filter_cons_of_pos rfl]

theorem cutScheme_append :
    cutScheme (base.chars ++ rest) =
      (base.scheme.map asciiLower, '/' :: '/' :: (base.authority ++ base.path ++ rest)) := by
  rw [chars, List.append_assoc, List.cons_append,
    cutScheme_of_isSchemeChar base.letter base.schemeChars]
  rfl

theorem cutAuthority_append {rest : List Char} (h : ∀ c ∈ rest.head?, endsAuthority c = true) :
    cutAuthority ('/' :: '/' :: (base.authority ++ rest)) = (base.authority, rest) := by
  refine cutAuthority_of_endsAuthority (fun c hc => ?_) h
  obtain ⟨hquery, hfragment, -⟩ := isPathChar_iff.mp (base.authorityChars c hc)
  have hslash : c ≠ '/' := fun heq => base.authority_slash (heq ▸ hc)
  simp [endsAuthority, hslash, hquery, hfragment]

/-- **Splitting finds a base again,** whatever follows it behind a slash. -/
theorem split_append :
    ∃ query fragment, split (base.chars ++ '/' :: rest) =
      .ok ⟨base.scheme.map asciiLower, base.authority, base.path ++ '/' :: pathBelow rest, query,
        fragment⟩ := by
  have hends : ∀ c ∈ (base.path ++ '/' :: rest.filter (!isRemoved ·)).head?,
      endsAuthority c = true := by
    rw [head?_path_append]
    rintro c ⟨⟩
    rfl
  have hkept : ∀ c ∈ base.path ++ ['/'], isPathChar c = true := by
    rw [List.forall_mem_append]
    exact ⟨base.pathChars, List.forall_mem_singleton.mpr rfl⟩
  have hpath : beforeFirst '?' (beforeFirst '#' (base.path ++ '/' :: rest.filter (!isRemoved ·))) =
      base.path ++ '/' :: pathBelow rest := by
    rw [List.append_cons, beforeFirst_append (notMem_of_isPathChar hkept rfl),
      beforeFirst_append (notMem_of_isPathChar hkept rfl), ← List.append_cons]
    rfl
  rw [split, cleaned_append, cutScheme_append]
  dsimp only
  rw [List.append_assoc, cutAuthority_append base hends]
  dsimp only
  rw [base.brackets, base.disguises, fst_getD_cut?, fst_getD_cut?, hpath]
  exact ⟨_, _, rfl⟩

/-! ## Joining -/

/-- The parts of a base make it up again, with whatever its path goes on. -/
theorem join_append :
    join base.scheme base.authority (base.path ++ '/' :: rest) = base.chars ++ '/' :: rest := by
  have hauthority : base.authority.isEmpty = false :=
    List.isEmpty_eq_false_iff.mpr base.authority_ne_nil
  have hscheme : base.scheme.isEmpty = false := by
    obtain ⟨first, others, heq⟩ := exists_scheme_eq_cons base
    rw [heq]
    rfl
  have hrooted : Url.rooted (base.path ++ '/' :: rest) = base.path ++ '/' :: rest := by
    rw [Url.rooted, head?_path_append, beq_self_eq_true, Bool.or_true, if_pos rfl]
  simp [join, chars, hauthority, hscheme, hrooted]

end Base

end ODataExplorer.Url
