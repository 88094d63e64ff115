import ODataExplorer.Proofs.Url.Form

/-!
Forms behind other text.

Where a form is written behind a question mark that does not begin the query, who reads the query
takes the mark, and what stands before it up to an ampersand, for a part of the first field. A mark
divides what is encoded (`decodedBytes_append_mark`), so the first field comes out with the mark in
its name or its value, whatever stands before; and since the name and the value were whole without
it, the fields that are read are never those that were written (`readFields?_behind`).
-/

namespace ODataExplorer.Url.Form

open Text

/-! ## Marks in encoded text -/

/-- A per cent sign stands for itself where two digits do not follow. -/
theorem decodedBytes_percent {cs : List Char}
    (h : ∀ a b rest, cs = a :: b :: rest →
      ∀ high low, hexValue? a = some high → hexValue? b = some low → False) :
    decodedBytes ('%' :: cs) = '%'.toNat.toUInt8 :: decodedBytes cs := by
  cases cs with
  | nil => rfl
  | cons a cs =>
    cases cs with
    | nil => rfl
    | cons b rest =>
      have hnone := h a b rest rfl
      rw [decodedBytes]
      split
      · next high low hhigh hlow => exact (hnone high low hhigh hlow).elim
      · rfl

theorem decodedBytes_mark (rest : List Char) :
    decodedBytes ('?' :: rest) = '?'.toNat.toUInt8 :: decodedBytes rest :=
  decodedBytes_cons (by decide) (by decide) rest

/-- A question mark is no digit, so it divides an encoded text. -/
theorem decodedBytes_append_mark (cs rest : List Char) :
    decodedBytes (cs ++ '?' :: rest) =
      decodedBytes cs ++ '?'.toNat.toUInt8 :: decodedBytes rest := by
  fun_induction decodedBytes cs with
  | case1 a b cs high low hlow hhigh ih =>
    simp only [List.cons_append, decodedBytes, hhigh, hlow, ih]
  | case2 a b cs hnone ih =>
    rw [List.cons_append, decodedBytes_percent, ih, List.cons_append]
    intro first second others heq
    obtain ⟨rfl, htail⟩ := List.cons.inj heq
    obtain ⟨rfl, -⟩ := List.cons.inj htail
    exact hnone
  | case3 cs ih => rw [List.cons_append, decodedBytes, ih, List.cons_append]
  | case4 c cs hshort hplus ih =>
    by_cases hpercent : c = '%'
    · subst hpercent
      rw [List.cons_append, decodedBytes_percent, ih]
      · rfl
      · -- one of the two characters that would be the digits is the mark
        intro a b others heq high low hhigh hlow
        cases cs with
        | nil =>
          obtain ⟨rfl, -⟩ := List.cons.inj heq
          cases hhigh
        | cons first cs =>
          cases cs with
          | nil =>
            obtain ⟨rfl, -⟩ := List.cons.inj (List.cons.inj heq).2
            cases hlow
          | cons second others => exact hshort first second others rfl rfl
    · rw [List.cons_append, decodedBytes_cons hpercent hplus, ih, List.append_assoc]
  | case5 => exact decodedBytes_mark rest

variable {written text : List Char}

/-- Where a mark precedes what is written, no end of the text it stands for is read. -/
theorem decode?_append_mark_ne (h : StandsFor written text) {ending : List Char}
    (hending : ending <:+ text) (cs : List Char) :
    decode? (cs ++ '?' :: written) ≠ some ending := by
  intro hread
  rw [decode?, decodedBytes_append_mark] at hread
  obtain ⟨before, after, rfl, hafter⟩ :=
    Utf8.exists_of_decode?_append_ascii (by decide) hread
  have hwritten : some after = some text := hafter.symm.trans h.decode?_eq
  cases hwritten
  have hlength := hending.length_le
  rw [List.length_append, List.length_cons] at hlength
  omega

/-! ## Marks in fields -/

variable {field : String × String} {fields : List (String × String)}

/-- A part without an ampersand is one field, if it has a value. -/
theorem readFields?_part {part : List Char} {cut : List Char × List Char} (hpart : '&' ∉ part)
    (hfield : field? part = some cut) (h : readFields? part = some fields) :
    ∃ other, fields = [other] ∧ decodedField? cut = some other := by
  rw [readFields?, pieces_of_notMem hpart, List.filterMap_cons_some hfield, List.filterMap_nil,
    List.mapM_cons, Option.bind_eq_bind, Option.bind_eq_some_iff] at h
  obtain ⟨other, hother, h⟩ := h
  exact ⟨other, (Option.some.inj h).symm, hother⟩

/-- A part in which a mark precedes a field is read as another field, whether the mark goes to its
name or to its value. -/
theorem readFields?_append_mark {cs : List Char} (hcs : '&' ∉ cs) (hvalue : field.2 ≠ "")
    (h : readFields? (cs ++ '?' :: encodeField field) = some fields) :
    ∃ other, fields = [other] ∧ other ≠ field := by
  have hpart : '&' ∉ cs ++ '?' :: encodeField field := by
    rw [List.mem_append, List.mem_cons]
    exact not_or_intro hcs (not_or_intro (by decide) (notMem_encodeField field))
  by_cases hsign : '=' ∈ cs
  · obtain ⟨name, value, rfl, hname⟩ := List.eq_append_cons_of_mem hsign
    have hfield : field? (name ++ '=' :: value ++ '?' :: encodeField field) =
        some (name, value ++ '?' :: encodeField field) := by
      rw [List.append_assoc, List.cons_append]
      exact field?_append hname (List.append_ne_nil_of_right_ne_nil _ (List.cons_ne_nil _ _))
    obtain ⟨other, hfields, hother⟩ := readFields?_part hpart hfield h
    refine ⟨other, hfields, ?_⟩
    rintro rfl
    have hending : other.2.toList <:+ shownField other :=
      (List.suffix_cons _ _).trans (List.suffix_append _ _)
    exact decode?_append_mark_ne (standsFor_encodeField other) hending value
      (decodedField?_eq_some_iff.mp hother).2
  · have hname : '=' ∉ cs ++ '?' :: encode field.1.toList := by
      rw [List.mem_append, List.mem_cons]
      exact not_or_intro hsign (not_or_intro (by decide) (notMem_encode (.inr rfl) _))
    have hfield : field? (cs ++ '?' :: encodeField field) =
        some (cs ++ '?' :: encode field.1.toList, encode field.2.toList) := by
      have hcut := field?_append hname (encode_value_ne_nil hvalue)
      rwa [List.append_assoc, List.cons_append] at hcut
    obtain ⟨other, hfields, hother⟩ := readFields?_part hpart hfield h
    refine ⟨other, hfields, ?_⟩
    rintro rfl
    exact decode?_append_mark_ne (standsFor_encode _) (List.suffix_refl _) cs
      (decodedField?_eq_some_iff.mp hother).1

/-! ## Marks in forms -/

variable (hvalues : ∀ each ∈ field :: fields, each.2 ≠ "") {found : List (String × String)}
include hvalues

/-- Only the first field is read as another one. -/
theorem readFields?_append_encodeFields {cs : List Char} (hcs : '&' ∉ cs)
    (h : readFields? (cs ++ '?' :: encodeFields (field :: fields)) = some found) :
    ∃ other, found = other :: fields ∧ other ≠ field := by
  obtain ⟨hvalue, hrest⟩ := List.forall_mem_cons.mp hvalues
  cases fields with
  | nil => exact readFields?_append_mark hcs hvalue h
  | cons next fields =>
    have hform : encodeFields (field :: next :: fields) =
        encodeField field ++ '&' :: encodeFields (next :: fields) :=
      joinWith_cons _ (List.cons_ne_nil _ _)
    rw [hform, ← List.cons_append, ← List.append_assoc, readFields?_append_cons,
      readFields?_encodeFields hrest, Option.bind_eq_bind, Option.bind_eq_some_iff] at h
    obtain ⟨first, hfirst, h⟩ := h
    obtain ⟨other, rfl, hother⟩ := readFields?_append_mark hcs hvalue hfirst
    exact ⟨other, (Option.some.inj h).symm, hother⟩

/-- **Fields are not read as they were written,** where their form stands behind a mark that does
not begin the query, whatever stands before it. -/
theorem readFields?_behind (before : List Char) :
    readFields? (before ++ '?' :: encodeFields (field :: fields)) ≠ some (field :: fields) := by
  intro h
  by_cases hbefore : '&' ∈ before
  · -- the fields before the last ampersand are too many, and without them the first one differs
    obtain ⟨early, last, rfl, hlast⟩ := exists_last_of_mem hbefore
    rw [List.append_assoc, List.cons_append, readFields?_append_cons, Option.bind_eq_bind,
      Option.bind_eq_some_iff] at h
    obtain ⟨first, -, h⟩ := h
    obtain ⟨rest, hrest, heq⟩ := Option.bind_eq_some_iff.mp h
    obtain ⟨other, rfl, hother⟩ := readFields?_append_encodeFields hvalues hlast hrest
    rcases List.append_eq_cons_iff.mp (Option.some.inj heq) with ⟨-, hfound⟩ | ⟨others, -, hfound⟩
    · exact hother (List.cons.inj hfound).1
    · have hlength := congrArg List.length hfound
      rw [List.length_append, List.length_cons] at hlength
      omega
  · obtain ⟨other, heq, hother⟩ := readFields?_append_encodeFields hvalues hbefore h
    exact hother (List.cons.inj heq).1.symm

end ODataExplorer.Url.Form
