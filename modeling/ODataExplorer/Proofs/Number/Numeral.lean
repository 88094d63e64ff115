import ODataExplorer.Number.Reading
import ODataExplorer.Proofs.Text.Trim

/-!
Digits and numerals.

A text may be made of digits and still write no number: superscripts and circled digits have no
place in one, and an integer has a limited number of digits. A numeral is a text that meets both
conditions, and those are all there are: of the texts of digits, exactly the numerals are read as
integers (`readInteger_of_isNumeral`, `readInteger_of_isFalseNumeral`).
-/

namespace ODataExplorer.Number

open Text

/-- A digit that has a place in numbers. -/
def isDecimal (c : Char) : Bool := (decimalValue? c).isSome

/-- A text that writes an integer in nothing but digits. -/
structure IsNumeral (s : String) : Prop where
  nonempty : s.toList ≠ []
  decimal : ∀ c ∈ s.toList, isDecimal c = true
  short : s.toList.length ≤ maxDigits

theorem isNumeral_iff (s : String) : IsNumeral s ↔
    (!s.toList.isEmpty && s.toList.all isDecimal && Nat.ble s.toList.length maxDigits) = true := by
  simp only [Bool.and_eq_true, Bool.not_eq_true', List.isEmpty_eq_false_iff, List.all_eq_true,
    Nat.ble_eq]
  exact ⟨fun h => ⟨⟨h.nonempty, h.decimal⟩, h.short⟩, fun h => ⟨h.1.1, h.1.2, h.2⟩⟩

instance (s : String) : Decidable (IsNumeral s) := decidable_of_iff _ (isNumeral_iff s).symm

/-- The number that a numeral writes. -/
def numeralValue (s : String) : Nat := ofDigits (s.toList.filterMap decimalValue?)

/-- A text of digits that is no numeral. -/
def IsFalseNumeral (s : String) : Prop := isDigitText s = true ∧ ¬IsNumeral s

instance (s : String) : Decidable (IsFalseNumeral s) := inferInstanceAs (Decidable (_ ∧ _))

variable {c : Char} {cs : List Char} {s : String}

/-! ## Digits are no blanks -/

/-- The code points of blanks. -/
def blankCodes : List Nat :=
  List.range' 9 5 ++ List.range' 28 5 ++ [0x85, 0xA0, 0x1680] ++ List.range' 0x2000 11 ++
    [0x2028, 0x2029, 0x202F, 0x205F, 0x3000]

theorem mem_blankCodes (h : isBlank c = true) : c.toNat ∈ blankCodes := by
  simp only [isBlank, Bool.or_eq_true, Bool.and_eq_true, decide_eq_true_eq, beq_iff_eq] at h
  simp only [blankCodes, List.mem_append, List.mem_range'_1, List.mem_cons, List.not_mem_nil,
    or_false]
  omega

theorem isBlank_of_isDigit (h : isDigit c = true) : isBlank c = false := by
  have hnone : ∀ n ∈ blankCodes, isDigit (Char.ofNat n) = false := by decide
  cases hblank : isBlank c with
  | false => rfl
  | true =>
    have hdigit := hnone c.toNat (mem_blankCodes hblank)
    rw [Char.ofNat_toNat, h] at hdigit
    exact hdigit

/-- Nothing is trimmed off a text of digits. -/
theorem trimWhile_of_isDigit (h : ∀ c ∈ cs, isDigit c = true) : trimWhile isBlank cs = cs :=
  trimWhile_eq_self (fun c hc => isBlank_of_isDigit (h c (List.mem_of_mem_head? hc)))
    fun c hc => isBlank_of_isDigit (h c (List.mem_of_mem_getLast? hc))

/-! ## Runs of digits -/

theorem isDigit_of_isDecimal (h : isDecimal c = true) : isDigit c = true := by
  rw [isDigit, Bool.or_eq_true]
  exact .inl h

theorem isDigitText_of_isNumeral (h : IsNumeral s) : isDigitText s = true := by
  rw [isDigitText, Bool.and_eq_true, Bool.not_eq_true', List.all_eq_true]
  exact ⟨Bool.eq_false_iff.mpr fun hempty => h.nonempty (by rw [String.isEmpty_iff.mp hempty]; rfl),
    fun c hc => isDigit_of_isDecimal (h.decimal c hc)⟩

/-- Without an underscore, a run of digits ends at the first character that is none. -/
theorem digitRun_eq (h : '_' ∉ cs) :
    digitRun cs =
      some ((cs.takeWhile isDecimal).filterMap decimalValue?, cs.dropWhile isDecimal) := by
  fun_induction digitRun cs with
  | case1 => rfl
  | case2 c rest | case3 c rest | case4 c rest | case5 c rest =>
    exact absurd (List.mem_cons_of_mem c List.mem_cons_self) h
  | case6 c cs _ hvalue =>
    have hnot : ¬isDecimal c = true := by rw [isDecimal, hvalue]; exact Bool.false_ne_true
    rw [List.takeWhile_cons_of_neg hnot, List.dropWhile_cons_of_neg hnot, List.filterMap_nil]
  | case7 c cs _ digit hvalue ih =>
    have hdecimal : isDecimal c = true := by rw [isDecimal, hvalue]; rfl
    rw [ih fun hmem => h (List.mem_cons_of_mem c hmem), List.takeWhile_cons_of_pos hdecimal,
      List.dropWhile_cons_of_pos hdecimal, List.filterMap_cons_some hvalue]
    rfl

theorem takeSign_of_isDigit (h : ∀ c ∈ cs, isDigit c = true) : takeSign cs = (false, cs) := by
  fun_cases takeSign cs with
  | case1 | case2 => exact absurd (h _ List.mem_cons_self) Bool.false_ne_true
  | case3 => rfl

theorem length_filterMap_decimalValue? (h : ∀ c ∈ cs, isDecimal c = true) :
    (cs.filterMap decimalValue?).length = cs.length :=
  List.filterMap_length_eq_length.mpr h

/-! ## Reading -/

/-- What reading a text of digits comes to: its decimal digits, up to the first that is none. -/
theorem readInteger_of_isDigit (h : ∀ c ∈ s.toList, isDigit c = true) :
    readInteger s =
      match (s.toList.takeWhile isDecimal).filterMap decimalValue? with
      | [] => .error (.notAnInteger s)
      | digits =>
        if digits.length > maxDigits then .error (.tooManyDigits digits.length)
        else if !(s.toList.dropWhile isDecimal).isEmpty then .error (.notAnInteger s)
        else .ok (ofDigits digits) := by
  have hunderscore : '_' ∉ s.toList := fun hmem => absurd (h _ hmem) Bool.false_ne_true
  rw [readInteger, trimWhile_of_isDigit h]
  simp only [takeSign_of_isDigit h, digitRun_eq hunderscore]
  cases (s.toList.takeWhile isDecimal).filterMap decimalValue? with
  | nil => rfl
  | cons digit digits => rfl

/-- **A numeral is read as the integer that it writes.** -/
theorem readInteger_of_isNumeral (h : IsNumeral s) : readInteger s = .ok (numeralValue s) := by
  have hlength := length_filterMap_decimalValue? h.decimal
  rw [readInteger_of_isDigit fun c hc => isDigit_of_isDecimal (h.decimal c hc),
    List.takeWhile_eq_self_iff.mpr h.decimal, List.dropWhile_eq_nil_iff.mpr h.decimal, numeralValue]
  cases hdigits : s.toList.filterMap decimalValue? with
  | nil =>
    rw [hdigits] at hlength
    exact absurd (List.length_eq_zero_iff.mp hlength.symm) h.nonempty
  | cons digit digits =>
    rw [hdigits] at hlength
    simp only [hlength]
    rw [if_neg (Nat.not_lt.mpr h.short)]
    rfl

/-- **No other text of digits is read.** -/
theorem readInteger_of_isFalseNumeral (h : IsFalseNumeral s) :
    ∃ fault, readInteger s = .error fault := by
  obtain ⟨hdigits, hfalse⟩ := h
  obtain ⟨hnonempty, hdigits⟩ := Bool.and_eq_true_iff.mp hdigits
  rw [readInteger_of_isDigit (List.all_eq_true.mp hdigits)]
  split
  · exact ⟨_, rfl⟩
  · split
    · exact ⟨_, rfl⟩
    · next hshort =>
      refine ⟨_, if_pos ?_⟩
      rw [Bool.not_eq_true', List.isEmpty_eq_false_iff, Ne, List.dropWhile_eq_nil_iff]
      intro hdecimal
      -- digits that all have a place in numbers can only be too many
      refine hfalse ⟨?_, hdecimal, ?_⟩
      · rw [Ne, String.toList_eq_nil_iff, ← String.isEmpty_iff]
        exact Bool.eq_false_iff.mp (Bool.not_eq_true' _ ▸ hnonempty)
      · rw [List.takeWhile_eq_self_iff.mpr hdecimal, length_filterMap_decimalValue? hdecimal]
          at hshort
        exact Nat.not_lt.mp hshort

/-! ## Decimal texts -/

theorem decimalValue?_of_isDigit (h : c.isDigit = true) :
    decimalValue? c = some (c.toNat - '0'.toNat) := by
  have hbounds : '0'.toNat ≤ c.toNat ∧ c.toNat ≤ '9'.toNat := by
    simpa [Char.isDigit, UInt32.le_iff_toNat_le] using h
  have hascii : c.toNat < 0x80 := Nat.lt_of_le_of_lt hbounds.2 (by decide)
  rw [decimalValue?, if_pos hascii, asciiDigitValue?, if_pos]
  simp only [Bool.and_eq_true, decide_eq_true_eq, Char.le_def, UInt32.le_iff_toNat_le]
  exact hbounds

theorem isDecimal_of_mem_toDigits {n : Nat} (h : c ∈ Nat.toDigits 10 n) : isDecimal c = true := by
  rw [isDecimal, decimalValue?_of_isDigit (Nat.isDigit_of_mem_toDigits (by decide) (by decide) h)]
  rfl

/-- **The decimal text of a number is a numeral of it,** unless it has too many digits. -/
theorem isNumeral_toString {n : Nat} (h : (toString n).length ≤ maxDigits) :
    IsNumeral (toString n) := by
  rw [Nat.toString_eq_ofList_toDigits] at h ⊢
  refine ⟨?_, ?_, ?_⟩
  · rw [String.toList_ofList]
    exact Nat.toDigits_ne_nil
  · rw [String.toList_ofList]
    exact fun c hc => isDecimal_of_mem_toDigits hc
  · rw [String.length_toList]
    exact h

theorem numeralValue_toString (n : Nat) : numeralValue (toString n) = n := by
  have hfold : ∀ (digits : List Char) (value : Nat), (∀ c ∈ digits, c.isDigit = true) →
      (digits.filterMap decimalValue?).foldl (fun value digit => 10 * value + digit) value =
        Nat.ofDigitChars 10 digits value := by
    intro digits
    induction digits with
    | nil => exact fun _ _ => rfl
    | cons c digits ih =>
      intro value hdigits
      obtain ⟨hc, hdigits⟩ := List.forall_mem_cons.mp hdigits
      rw [List.filterMap_cons_some (decimalValue?_of_isDigit hc), List.foldl_cons, ih _ hdigits,
        Nat.ofDigitChars_cons]
  rw [numeralValue, ofDigits, Nat.toString_eq_ofList_toDigits, String.toList_ofList, hfold]
  · exact Nat.ofDigitChars_ten_toDigits
  · exact fun c hc => Nat.isDigit_of_mem_toDigits (by decide) (by decide) hc

end ODataExplorer.Number
