import ODataExplorer.Text.Split

/-!
Cutting and joining.

A separator divides the pieces of a text (`pieces_append_cons`). So texts without a separator come
back when what joins them with it is cut at it (`pieces_joinWith`), and so does what stands before
the first separator (`cut?_append`); and joining the pieces of any text gives it back
(`joinWith_pieces`). Where only the last of the pieces has an ending, the first ending in front of a
separator is that one if a separator follows (`cutWord?_joinWith`); if none does, no ending is found
there (`cutWord?_joinWith_eq_none`) and the text ends with it (`endsWith_joinWith`).
-/

namespace ODataExplorer.Text

variable {sep : Char} {piece cs : List Char}

/-- A text without the separator is one piece. -/
theorem pieces_of_notMem (h : sep ∉ piece) : pieces sep piece = [piece] := by
  induction piece with
  | nil => rfl
  | cons c piece ih =>
    obtain ⟨hc, hrest⟩ := List.ne_and_not_mem_of_not_mem_cons h
    rw [pieces, if_neg (fun heq => hc (beq_iff_eq.mp heq).symm), ih hrest]

theorem pieces_ne_nil (sep : Char) (cs : List Char) : pieces sep cs ≠ [] := by
  fun_cases pieces sep cs <;> exact List.cons_ne_nil _ _

/-- A separator divides the pieces of a text. -/
theorem pieces_append_cons (sep : Char) (cs rest : List Char) :
    pieces sep (cs ++ sep :: rest) = pieces sep cs ++ pieces sep rest := by
  fun_induction pieces sep cs with
  | case1 => rw [List.nil_append, pieces, if_pos (beq_self_eq_true sep), List.singleton_append]
  | case2 c cs hc ih => rw [List.cons_append, pieces, if_pos hc, ih, List.cons_append]
  | case3 c cs hc piece others hpieces ih =>
    rw [List.cons_append, pieces, if_neg hc, ih, hpieces]
    rfl
  | case4 c cs hc hpieces => exact absurd hpieces (pieces_ne_nil sep cs)

/-- The first separator ends the first piece. -/
theorem pieces_append (h : sep ∉ piece) (rest : List Char) :
    pieces sep (piece ++ sep :: rest) = piece :: pieces sep rest := by
  rw [pieces_append_cons, pieces_of_notMem h, List.singleton_append]

/-- The first piece stands in front of the separator and the others joined. -/
theorem joinWith_cons (first : List Char) {rest : List (List Char)} (h : rest ≠ []) :
    joinWith [sep] (first :: rest) = first ++ sep :: joinWith [sep] rest := by
  cases rest with
  | nil => exact absurd rfl h
  | cons next rest =>
    rw [joinWith, List.append_assoc, List.singleton_append]
    exact nofun

/-- **Pieces without the separator come back** from the text that joins them with it. -/
theorem pieces_joinWith {parts : List (List Char)} (hne : parts ≠ [])
    (h : ∀ part ∈ parts, sep ∉ part) : pieces sep (joinWith [sep] parts) = parts := by
  induction parts with
  | nil => exact absurd rfl hne
  | cons part parts ih =>
    obtain ⟨hpart, hparts⟩ := List.forall_mem_cons.mp h
    cases parts with
    | nil => exact pieces_of_notMem hpart
    | cons next parts =>
      rw [joinWith_cons _ (List.cons_ne_nil _ _), pieces_append hpart,
        ih (List.cons_ne_nil _ _) hparts]

/-- A text without the separator in front of another one is cut where that one is. -/
theorem cut?_append_of_notMem (h : sep ∉ piece) (cs : List Char) :
    cut? sep (piece ++ cs) = (cut? sep cs).map fun (before, after) => (piece ++ before, after) := by
  induction piece with
  | nil =>
    rw [List.nil_append]
    cases cut? sep cs <;> rfl
  | cons c piece ih =>
    obtain ⟨hc, hrest⟩ := List.ne_and_not_mem_of_not_mem_cons h
    rw [List.cons_append, cut?, if_neg (fun heq => hc (beq_iff_eq.mp heq).symm), ih hrest,
      Option.map_map]
    rfl

/-- What stands before the first separator, and what stands after it. -/
theorem cut?_append (h : sep ∉ piece) (rest : List Char) :
    cut? sep (piece ++ sep :: rest) = some (piece, rest) := by
  rw [cut?_append_of_notMem h, cut?, if_pos (beq_self_eq_true sep), Option.map_some]
  exact congrArg (fun before => some (before, rest)) (List.append_nil piece)

theorem cut?_eq_none_iff : cut? sep cs = none ↔ sep ∉ cs := by
  constructor
  · intro hnone hmem
    obtain ⟨before, after, rfl, hbefore⟩ := List.eq_append_cons_of_mem hmem
    rw [cut?_append hbefore] at hnone
    cases hnone
  · intro hmem
    have hcut := cut?_append_of_notMem hmem []
    rwa [List.append_nil] at hcut

/-- A cut is at the first separator and keeps all the rest. -/
theorem cut?_eq_some_iff {before after : List Char} :
    cut? sep cs = some (before, after) ↔ sep ∉ before ∧ cs = before ++ sep :: after := by
  constructor
  · intro h
    induction cs generalizing before with
    | nil => cases h
    | cons c cs ih =>
      rw [cut?] at h
      split at h
      · next hsep =>
        cases h
        rw [eq_of_beq hsep]
        exact ⟨List.not_mem_nil, rfl⟩
      · next hsep =>
        obtain ⟨⟨rest, last⟩, hcut, heq⟩ := Option.map_eq_some_iff.mp h
        cases heq
        obtain ⟨hrest, rfl⟩ := ih hcut
        have hne : sep ≠ c := fun heq => hsep (heq ▸ beq_self_eq_true sep)
        exact ⟨List.not_mem_cons_of_ne_of_not_mem hne hrest, rfl⟩
  · rintro ⟨hbefore, rfl⟩
    exact cut?_append hbefore after

/-- The last separator of a text divides it. -/
theorem exists_last_of_mem (h : sep ∈ cs) :
    ∃ before last, cs = before ++ sep :: last ∧ sep ∉ last := by
  obtain ⟨last, before, hreverse, hlast⟩ := List.eq_append_cons_of_mem (List.mem_reverse.mpr h)
  refine ⟨before.reverse, last.reverse, ?_, fun hmem => hlast (List.mem_reverse.mp hmem)⟩
  rw [← List.reverse_reverse cs, hreverse, List.reverse_append, List.reverse_cons,
    List.append_assoc, List.singleton_append]

/-- A joined text holds the separator and what the pieces hold. -/
theorem mem_joinWith {c : Char} {parts : List (List Char)} (h : c ∈ joinWith [sep] parts) :
    c = sep ∨ ∃ part ∈ parts, c ∈ part := by
  revert h
  fun_induction joinWith [sep] parts with
  | case1 => exact nofun
  | case2 part => exact fun h => .inr ⟨part, List.mem_singleton_self part, h⟩
  | case3 part rest hrest ih =>
    intro h
    rcases List.mem_append.mp h with h | h
    · rcases List.mem_append.mp h with h | h
      · exact .inr ⟨part, List.mem_cons_self, h⟩
      · exact .inl (List.mem_singleton.mp h)
    · rcases ih h with h | ⟨other, hother, h⟩
      · exact .inl h
      · exact .inr ⟨other, List.mem_cons_of_mem _ hother, h⟩

/-- What joins pieces of which one is not empty is not empty. -/
theorem joinWith_ne_nil {parts : List (List Char)} {part : List Char} (hmem : part ∈ parts)
    (hne : part ≠ []) : joinWith [sep] parts ≠ [] := by
  fun_cases joinWith [sep] parts with
  | case1 => cases hmem
  | case2 only => rwa [← List.mem_singleton.mp hmem]
  | case3 first rest =>
    intro hnil
    have hlength := congrArg List.length hnil
    simp at hlength

/-! ## What stands before a cut -/

theorem beforeFirst_append (h : sep ∉ piece) (rest : List Char) :
    beforeFirst sep (piece ++ rest) = piece ++ beforeFirst sep rest := by
  refine List.takeWhile_append_of_pos fun c hc => ?_
  exact bne_iff_ne.mpr fun heq => h (heq ▸ hc)

theorem beforeFirst_cons_self (sep : Char) (cs : List Char) : beforeFirst sep (sep :: cs) = [] :=
  List.takeWhile_cons_of_neg (by rw [bne_self_eq_false]; exact Bool.false_ne_true)

/-- A character other than the separator stands before the first one if no separator precedes it. -/
theorem mem_beforeFirst {c : Char} (h : sep ∉ piece) (hc : c ≠ sep) (rest : List Char) :
    c ∈ beforeFirst sep (piece ++ c :: rest) := by
  have hnext : beforeFirst sep (c :: rest) = c :: beforeFirst sep rest :=
    List.takeWhile_cons_of_pos (bne_iff_ne.mpr hc)
  rw [beforeFirst_append h, hnext]
  exact List.mem_append_right _ List.mem_cons_self

/-- Cutting a text in two leaves what stands before the separator, or the whole text. -/
theorem fst_getD_cut? (sep : Char) (cs : List Char) :
    ((cut? sep cs).getD (cs, [])).1 = beforeFirst sep cs := by
  induction cs with
  | nil => rfl
  | cons c cs ih =>
    by_cases hc : c = sep
    · rw [cut?, if_pos (beq_iff_eq.mpr hc), hc, beforeFirst_cons_self]
      rfl
    · have hnext : beforeFirst sep (c :: cs) = c :: beforeFirst sep cs :=
        List.takeWhile_cons_of_pos (bne_iff_ne.mpr hc)
      rw [cut?, if_neg (fun h => hc (beq_iff_eq.mp h)), hnext, ← ih]
      cases cut? sep cs <;> rfl

/-! ## Pieces of any text -/

theorem joinWith_pieces (sep : Char) (cs : List Char) : joinWith [sep] (pieces sep cs) = cs := by
  fun_induction pieces sep cs with
  | case1 => rfl
  | case2 c cs hc ih =>
    rw [joinWith_cons _ (pieces_ne_nil sep cs), ih, beq_iff_eq.mp hc, List.nil_append]
  | case3 c cs hc piece rest hpieces ih =>
    rw [hpieces] at ih
    rw [← ih]
    cases rest with
    | nil => rfl
    | cons next rest =>
      rw [joinWith_cons _ (List.cons_ne_nil _ _), joinWith_cons _ (List.cons_ne_nil _ _)]
      rfl
  | case4 c cs hc hpieces => exact absurd hpieces (pieces_ne_nil sep cs)

theorem notMem_of_mem_pieces (h : piece ∈ pieces sep cs) : sep ∉ piece := by
  revert piece
  fun_induction pieces sep cs with
  | case1 =>
    intro piece h
    rw [List.mem_singleton.mp h]
    exact List.not_mem_nil
  | case2 c cs hc ih =>
    intro piece h
    rcases List.mem_cons.mp h with rfl | h
    · exact List.not_mem_nil
    · exact ih h
  | case3 c cs hc first rest hpieces ih =>
    intro piece h
    rw [hpieces] at ih
    rcases List.mem_cons.mp h with rfl | h
    · intro hmem
      rcases List.mem_cons.mp hmem with heq | hmem
      · exact hc (beq_iff_eq.mpr heq.symm)
      · exact ih List.mem_cons_self hmem
    · exact ih (List.mem_cons_of_mem _ h)
  | case4 c cs hc hpieces => exact absurd hpieces (pieces_ne_nil sep cs)

/-! ## Cutting at the end of a piece -/

theorem endsWith_append (word cs : List Char) : endsWith word (cs ++ word) = true :=
  List.isSuffixOf_iff_suffix.mpr (List.suffix_append cs word)

variable {ending : List Char}

/-- An ending and a separator are found at the beginning of a piece exactly if it is that ending. -/
theorem isPrefixOf_append_cons (hending : sep ∉ ending) (hpiece : sep ∉ piece) (rest : List Char) :
    (ending ++ [sep]).isPrefixOf (piece ++ sep :: rest) = true ↔ ending = piece := by
  rw [List.isPrefixOf_iff_prefix]
  constructor
  · rintro ⟨after, hafter⟩
    rw [List.append_assoc, List.singleton_append] at hafter
    have hcut := congrArg (cut? sep) hafter
    rw [cut?_append hending, cut?_append hpiece] at hcut
    exact (Prod.mk.inj (Option.some.inj hcut)).1
  · rintro rfl
    exact ⟨rest, by rw [List.append_assoc, List.singleton_append]⟩

theorem cutWord?_cons_of_not {word : List Char} {c : Char} (h : ¬word.isPrefixOf (c :: cs) = true) :
    cutWord? word (c :: cs) =
      (cutWord? word cs).map fun (before, after) => (c :: before, after) := by
  rw [cutWord?, if_neg h]

/-- A piece with another ending is passed over. -/
theorem cutWord?_of_not_endsWith (hending : sep ∉ ending) (hpiece : sep ∉ piece)
    (h : endsWith ending piece = false) (rest : List Char) :
    cutWord? (ending ++ [sep]) (piece ++ sep :: rest) =
      (cutWord? (ending ++ [sep]) rest).map
        fun (before, after) => (piece ++ sep :: before, after) := by
  -- where the ending began inside the piece, it would be all that is left of it
  have hne : ∀ {piece}, endsWith ending piece = false → ending ≠ piece := by
    rintro piece h rfl
    rw [endsWith, List.isSuffixOf_iff_suffix.mpr (List.suffix_refl _)] at h
    cases h
  induction piece with
  | nil =>
    exact cutWord?_cons_of_not fun hprefix =>
      hne h ((isPrefixOf_append_cons hending hpiece rest).mp hprefix)
  | cons c piece ih =>
    have hlater : endsWith ending piece = false := by
      rw [Bool.eq_false_iff, endsWith, Ne, List.isSuffixOf_iff_suffix] at h ⊢
      exact fun hsuffix => h (hsuffix.trans (List.suffix_cons c piece))
    have hnot : ¬(ending ++ [sep]).isPrefixOf (c :: (piece ++ sep :: rest)) = true := fun hprefix =>
      hne h ((isPrefixOf_append_cons hending hpiece rest).mp hprefix)
    rw [List.cons_append, cutWord?_cons_of_not hnot,
      ih (List.not_mem_of_not_mem_cons hpiece) hlater, Option.map_map]
    rfl

/-- A piece with the ending is cut there. -/
theorem cutWord?_of_endsWith {stem : List Char} (hending : sep ∉ ending) (hstem : sep ∉ stem)
    (rest : List Char) :
    cutWord? (ending ++ [sep]) (stem ++ ending ++ sep :: rest) = some (stem, rest) := by
  induction stem with
  | nil =>
    have hprefix := (isPrefixOf_append_cons hending hending rest).mpr rfl
    rw [List.nil_append]
    cases htext : ending ++ sep :: rest with
    | nil => exact absurd htext (by simp)
    | cons c cs =>
      rw [htext] at hprefix
      rw [cutWord?, if_pos hprefix, ← htext]
      simp
  | cons c stem ih =>
    have hpiece : sep ∉ c :: stem ++ ending := by
      rw [List.mem_append]
      exact not_or_intro hstem hending
    rw [List.cons_append, List.cons_append, cutWord?_cons_of_not,
      ih (List.not_mem_of_not_mem_cons hstem)]
    · rfl
    · intro hprefix
      have heq := (isPrefixOf_append_cons hending hpiece rest).mp hprefix
      have hlength := congrArg List.length heq
      simp at hlength
      omega

/-- **A text is cut behind the ending of its last piece,** if no other piece has the ending. -/
theorem cutWord?_joinWith {before : List (List Char)} {last : List Char} (hending : sep ∉ ending)
    (hbefore : ∀ piece ∈ before, sep ∉ piece ∧ endsWith ending piece = false)
    (hlast : sep ∉ last ∧ endsWith ending last = true) (rest : List Char) :
    ∃ stem, joinWith [sep] (before ++ [last]) = stem ++ ending ∧
      cutWord? (ending ++ [sep]) (joinWith [sep] (before ++ [last]) ++ sep :: rest) =
        some (stem, rest) := by
  induction before with
  | nil =>
    obtain ⟨stem, rfl⟩ := List.isSuffixOf_iff_suffix.mp hlast.2
    exact ⟨stem, rfl, cutWord?_of_endsWith hending
      (fun hmem => hlast.1 (List.mem_append_left _ hmem)) rest⟩
  | cons piece before ih =>
    obtain ⟨⟨hpiece, hend⟩, hbefore⟩ := List.forall_mem_cons.mp hbefore
    obtain ⟨stem, hstem, hcut⟩ := ih hbefore
    refine ⟨piece ++ sep :: stem, ?_, ?_⟩
    · rw [List.cons_append, joinWith_cons _ (by simp), hstem, List.append_assoc, List.cons_append]
    · rw [List.cons_append, joinWith_cons _ (by simp), List.append_assoc, List.cons_append,
        cutWord?_of_not_endsWith hending hpiece hend, hcut]
      rfl

/-! ## Endings of pieces -/

/-- A word that ends in the separator is not found in a text without it. -/
theorem cutWord?_of_notMem (h : sep ∉ cs) : cutWord? (ending ++ [sep]) cs = none := by
  induction cs with
  | nil => simp [cutWord?]
  | cons c cs ih =>
    have hnot : ¬(ending ++ [sep]).isPrefixOf (c :: cs) = true := fun hprefix =>
      h ((List.isPrefixOf_iff_prefix.mp hprefix).subset (List.mem_append_right _
        (List.mem_singleton_self sep)))
    rw [cutWord?_cons_of_not hnot, ih (List.not_mem_of_not_mem_cons h)]
    rfl

/-- Where no piece but the last has the ending, it does not stand in front of a separator. -/
theorem cutWord?_joinWith_eq_none {before : List (List Char)} {last : List Char}
    (hending : sep ∉ ending)
    (hbefore : ∀ piece ∈ before, sep ∉ piece ∧ endsWith ending piece = false)
    (hlast : sep ∉ last) :
    cutWord? (ending ++ [sep]) (joinWith [sep] (before ++ [last])) = none := by
  induction before with
  | nil => exact cutWord?_of_notMem hlast
  | cons piece before ih =>
    obtain ⟨⟨hpiece, hend⟩, hbefore⟩ := List.forall_mem_cons.mp hbefore
    rw [List.cons_append, joinWith_cons _ (by simp),
      cutWord?_of_not_endsWith hending hpiece hend, ih hbefore]
    rfl

/-- Behind a separator, what stands before it makes no difference to an ending without one. -/
theorem endsWith_append_cons (hending : sep ∉ ending) (before rest : List Char) :
    endsWith ending (before ++ sep :: rest) = endsWith ending rest := by
  have hwhole : sep :: rest <:+ before ++ sep :: rest := List.suffix_append before _
  rw [Bool.eq_iff_iff, endsWith, endsWith, List.isSuffixOf_iff_suffix, List.isSuffixOf_iff_suffix]
  constructor
  · intro h
    rcases List.suffix_or_suffix_of_suffix h hwhole with hinside | hover
    · rcases List.suffix_cons_iff.mp hinside with heq | hinside
      · exact absurd (heq ▸ List.mem_cons_self) hending
      · exact hinside
    · exact absurd (hover.subset List.mem_cons_self) hending
  · exact fun h => (h.trans (List.suffix_cons sep rest)).trans hwhole

/-- A text ends as its last piece does. -/
theorem endsWith_joinWith (hending : sep ∉ ending) (before : List (List Char)) (last : List Char) :
    endsWith ending (joinWith [sep] (before ++ [last])) = endsWith ending last := by
  induction before with
  | nil => rfl
  | cons piece before ih =>
    rw [List.cons_append, joinWith_cons _ (by simp), endsWith_append_cons hending, ih]

/-- Texts joined one after another are joined with a separator between them. -/
theorem joinWith_append {before after : List (List Char)} (hbefore : before ≠ [])
    (hafter : after ≠ []) :
    joinWith [sep] (before ++ after) = joinWith [sep] before ++ sep :: joinWith [sep] after := by
  induction before with
  | nil => exact absurd rfl hbefore
  | cons piece before ih =>
    cases before with
    | nil => exact joinWith_cons piece hafter
    | cons next before =>
      rw [List.cons_append, joinWith_cons _ (by simp), ih (List.cons_ne_nil _ _),
        joinWith_cons _ (List.cons_ne_nil _ _), List.append_assoc, List.cons_append]

end ODataExplorer.Text
