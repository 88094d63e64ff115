import ODataExplorer.Proofs.Text.Utf8
import ODataExplorer.Xml.Char
import ODataExplorer.Xml.Source

/-!
What a document keeps of the beginning of its text.

Of all characters only zero has a zero among its bytes. So where the bytes of a text are taken as
units of two, the text begins with that character or has it after one of ASCII, and then the first
unit is the first character. A document therefore opens with a bracket only if its text does, once a
byte order mark and a zero are set aside (`head?_ofText`).
-/

namespace ODataExplorer.Xml

open Text

/-! ## The bytes of a character -/

theorem toUInt8_ne_zero {n : Nat} (hpos : 0 < n) (hlt : n < 0x100) : (0 : UInt8) ≠ n.toUInt8 := by
  intro heq
  have hzero := congrArg UInt8.toNat heq
  rw [Utf8.toNat_toUInt8 hlt] at hzero
  exact Nat.ne_of_lt hpos hzero

/-- Only the character zero has a zero among its bytes. -/
theorem zero_notMem_encodeChar {c : Char} (h : c ≠ '\x00') : 0 ∉ Utf8.encodeChar c := by
  have hpos : c.toNat ≠ 0 := fun hzero => h (Char.toNat_inj.mp hzero)
  have hlt : c.toNat < 0x110000 := by
    have hvalid : c.toNat < 0xd800 ∨ 0xdfff < c.toNat ∧ c.toNat < 0x110000 := c.valid
    omega
  rw [Utf8.encodeChar]
  split
  · next hascii =>
    simp only [List.mem_cons, List.not_mem_nil, or_false]
    exact toUInt8_ne_zero (by omega) (by omega)
  · split
    · simp only [List.mem_cons, List.not_mem_nil, or_false, not_or]
      exact ⟨toUInt8_ne_zero (by omega) (by omega), toUInt8_ne_zero (by omega) (by omega)⟩
    · split
      · simp only [List.mem_cons, List.not_mem_nil, or_false, not_or]
        exact ⟨toUInt8_ne_zero (by omega) (by omega), toUInt8_ne_zero (by omega) (by omega),
          toUInt8_ne_zero (by omega) (by omega)⟩
      · simp only [List.mem_cons, List.not_mem_nil, or_false, not_or]
        exact ⟨toUInt8_ne_zero (by omega) (by omega), toUInt8_ne_zero (by omega) (by omega),
          toUInt8_ne_zero (by omega) (by omega), toUInt8_ne_zero (by omega) (by omega)⟩

/-- The bytes of a character are one, for ASCII, or at least two. -/
theorem encodeChar_cases (c : Char) :
    (c.toNat < 0x80 ∧ Utf8.encodeChar c = [c.toNat.toUInt8]) ∨
      ∃ a b rest, Utf8.encodeChar c = a :: b :: rest := by
  by_cases hascii : c.toNat < 0x80
  · exact .inl ⟨hascii, if_pos hascii⟩
  · refine .inr ?_
    rw [Utf8.encodeChar, if_neg hascii]
    split
    · exact ⟨_, _, _, rfl⟩
    · split
      · exact ⟨_, _, _, rfl⟩
      · exact ⟨_, _, _, rfl⟩

/-! ## The units of a text -/

/-- Bytes are units of two if one of the first two is zero; when that is the second one, the low
byte comes first. -/
theorem zero_of_unitOrder? {bytes : List UInt8} {unit : UInt8 → UInt8 → Nat} :
    unitOrder? bytes = some unit → bytes.head? = some 0 ∨
      ∃ a rest, bytes = a :: 0 :: rest ∧ ∀ a b, unit a b = b.toNat * 0x100 + a.toNat := by
  fun_cases unitOrder? bytes with
  | case1 => exact fun _ => .inl rfl
  | case2 a rest =>
    intro h
    cases h
    exact .inr ⟨a, rest, rfl, fun _ _ => rfl⟩
  | case3 =>
    intro h
    cases h

/-- A text whose first byte is zero begins with the character zero. -/
theorem head?_of_encode {text : List Char} (h : (Utf8.encode text).head? = some 0) :
    text.head? = some '\x00' := by
  cases text with
  | nil => cases h
  | cons c rest =>
    by_cases hzero : c = '\x00'
    · rw [hzero, List.head?_cons]
    · refine absurd ?_ (zero_notMem_encodeChar hzero)
      rw [Utf8.encode, List.flatMap_cons] at h
      obtain ⟨-, hone⟩ | ⟨a, b, more, hmany⟩ := encodeChar_cases c
      · rw [hone] at h ⊢
        exact List.mem_of_mem_head? h
      · rw [hmany] at h ⊢
        exact List.mem_of_mem_head? h

/-- The bytes of a text are units of two only if it begins with a zero, or with a zero after one
character of ASCII; the low byte comes first then. -/
theorem zero_of_unitOrder?_encode {text : List Char} {unit : UInt8 → UInt8 → Nat}
    (h : unitOrder? (Utf8.encode (text.take 2)) = some unit) :
    text.head? = some '\x00' ∨ ∃ c rest, text = c :: '\x00' :: rest ∧
      c.toNat < 0x80 ∧ ∀ a b, unit a b = b.toNat * 0x100 + a.toNat := by
  obtain hfirst | ⟨a, more, hbytes, hunit⟩ := zero_of_unitOrder? h
  · have hhead := head?_of_encode hfirst
    rw [List.head?_take, if_neg (Nat.succ_ne_zero 1)] at hhead
    exact .inl hhead
  · cases text with
    | nil => cases hbytes
    | cons c rest =>
      by_cases hzero : c = '\x00'
      · exact .inl (by rw [hzero, List.head?_cons])
      · rw [List.take_succ_cons, Utf8.encode, List.flatMap_cons] at hbytes
        obtain ⟨hascii, hone⟩ | ⟨a, b, more, hmany⟩ := encodeChar_cases c
        · rw [hone, List.singleton_append] at hbytes
          have hsecond : (rest.take 1).head? = some '\x00' :=
            head?_of_encode (List.head?_eq_some_iff.mpr ⟨_, (List.cons.inj hbytes).2⟩)
          rw [List.head?_take, if_neg Nat.one_ne_zero] at hsecond
          obtain ⟨rest, rfl⟩ := List.head?_eq_some_iff.mp hsecond
          exact .inr ⟨c, rest, rfl, hascii, hunit⟩
        · have hmem := zero_notMem_encodeChar hzero
          rw [hmany] at hbytes hmem
          injection hbytes with _ hbytes
          injection hbytes with hb _
          rw [hb] at hmem
          exact absurd (List.mem_cons_of_mem _ List.mem_cons_self) hmem

/-- The first of the characters that units write. -/
theorem head?_readUnits {unit : UInt8 → UInt8 → Nat} {a b : UInt8} {bytes : List UInt8}
    (h : unit a b < 0x80) :
    (readUnits unit (a :: b :: bytes)).1.head? = some (Char.ofNat (unit a b)) := by
  have hchar : unitChar (unit a b) = Char.ofNat (unit a b) := if_pos (.inl (by omega))
  have hsingle : ¬opensPair (unit a b) = true := by
    simp only [opensPair, Bool.and_eq_true, decide_eq_true_eq]
    omega
  match bytes with
  | [] | [_] => exact congrArg some hchar
  | c :: d :: rest => rw [readUnits, if_neg hsingle, readUnits.addTo, List.head?_cons, hchar]

/-- **A document begins as its text does,** up to the signs that the reading of bytes takes away. -/
theorem head?_ofText {text : List Char} (hmark : text.head? ≠ some '\uFEFF')
    (h : (skipSpace (Source.ofText text).chars).head? = some '<') :
    (skipSpace text).head? = some '<' ∨ (skipSpace text).head? = some '\x00' := by
  rw [Source.ofText] at h
  split at h
  · next unit hunits =>
    obtain hzero | ⟨c, rest, rfl, hascii, hunit⟩ := zero_of_unitOrder?_encode hunits
    · obtain ⟨rest, rfl⟩ := List.head?_eq_some_iff.mp hzero
      exact .inr rfl
    · by_cases hspace : isSpace c = true
      · refine .inr ?_
        rw [skipSpace, List.dropWhile_cons_of_pos hspace]
        rfl
      · refine .inl ?_
        have hc : unit c.toNat.toUInt8 0 = c.toNat := by
          rw [hunit, UInt8.toNat_zero, Nat.zero_mul, Nat.zero_add, Utf8.toNat_toUInt8 (by omega)]
        have hbytes : Utf8.encode (c :: '\x00' :: rest) =
            c.toNat.toUInt8 :: 0 :: Utf8.encode rest := by
          rw [Utf8.encode, List.flatMap_cons, List.flatMap_cons, Utf8.encodeChar, if_pos hascii]
          rfl
        obtain ⟨chars, hchars⟩ : ∃ chars,
            (readUnits unit (c.toNat.toUInt8 :: 0 :: Utf8.encode rest)).1 = c :: chars := by
          refine List.head?_eq_some_iff.mp ((head?_readUnits ?_).trans ?_)
          · rw [hc]
            exact hascii
          · rw [hc, Char.ofNat_toNat]
        simp only [hbytes, hchars, skipSpace, List.dropWhile_cons_of_neg hspace] at h ⊢
        exact h
  · left
    rwa [if_neg] at h
    simpa using hmark

end ODataExplorer.Xml
