import Mathlib.Algebra.Group.Nat.Defs
import ODataExplorer.Text.Quoted

/-!
Quoted texts say what was quoted.

A character inside quotes is written in a way that ends where it ends: a backslash is followed by a
letter that says how much more belongs to it, and every other character stands for itself
(`readQuotedChar_quoteChar`). None of these ways begins with the quote, so the closing one is not
taken for a part of the text. Main statement: whatever follows a quoted text, it is the quotation of
one text only (`quoted_append_inj`).
-/

namespace ODataExplorer.Text

/-! ## Code points -/

/-- The value of hexadecimal digits. -/
def ofHex (digits : List Char) : Nat :=
  digits.foldl (fun n digit => 16 * n + (hexValue? digit).getD 0) 0

theorem hexValue?_hexDigit : ∀ n < 16, hexValue? (hexDigit n) = some n := by decide

theorem length_fixedHex : ∀ width n : Nat, (fixedHex width n).length = width
  | 0, _ => rfl
  | width + 1, n => by
    rw [fixedHex, List.length_append, length_fixedHex width (n / 16), List.length_singleton]

/-- The digits of a number say as much of it as there are digits. -/
theorem ofHex_fixedHex : ∀ width n : Nat, ofHex (fixedHex width n) = n % 16 ^ width
  | 0, n => (Nat.mod_one n).symm
  | width + 1, n => by
    have ih := ofHex_fixedHex width (n / 16)
    rw [ofHex] at ih
    rw [fixedHex, ofHex, List.foldl_append, ih, List.foldl_cons, List.foldl_nil,
      hexValue?_hexDigit _ (Nat.mod_lt _ (by decide)), Option.getD_some, Nat.pow_succ,
      Nat.mul_comm (16 ^ width) 16, Nat.mod_mul]
    omega

theorem toNat_lt (c : Char) : c.toNat < 16 ^ 8 := by
  have hvalid := c.valid
  simp only [UInt32.isValidChar, Nat.isValidChar] at hvalid
  simp only [Char.toNat]
  omega

/-! ## Characters -/

/-- The character whose code point stands in so many digits, and what follows them. -/
def readCode (width : Nat) (rest : List Char) : Char × List Char :=
  (Char.ofNat (ofHex (rest.take width)), rest.drop width)

theorem readCode_fixedHex (width : Nat) {c : Char} (h : c.toNat < 16 ^ width)
    (rest : List Char) :
    readCode width (fixedHex width c.toNat ++ rest) = (c, rest) := by
  have hlength := length_fixedHex width c.toNat
  rw [readCode, List.take_left' hlength, List.drop_left' hlength, ofHex_fixedHex,
    Nat.mod_eq_of_lt h, Char.ofNat_toNat]

/-- The character that a letter after a backslash stands for, and what follows it. -/
def readEscape (letter : Char) (rest : List Char) : Char × List Char :=
  if letter == 'n' then ('\n', rest)
  else if letter == 'r' then ('\r', rest)
  else if letter == 't' then ('\t', rest)
  else if letter == 'x' then readCode 2 rest
  else if letter == 'u' then readCode 4 rest
  else if letter == 'U' then readCode 8 rest
  else (letter, rest)

/-- The first character of a text inside quotes, and what follows it. -/
def readQuotedChar : List Char → Option (Char × List Char)
  | [] => none
  | c :: rest =>
    match rest with
    | letter :: rest' => if c == '\\' then some (readEscape letter rest') else some (c, rest)
    | [] => some (c, [])

theorem readQuotedChar_of_ne {c : Char} (h : c ≠ '\\') (rest : List Char) :
    readQuotedChar (c :: rest) = some (c, rest) := by
  cases rest with
  | nil => rfl
  | cons letter rest =>
    rw [readQuotedChar, if_neg fun heq => h (eq_of_beq heq)]

theorem readQuotedChar_escapedCode (c : Char) (rest : List Char) :
    readQuotedChar (escapedCode c ++ rest) = some (c, rest) := by
  rw [escapedCode]
  split
  · next h => exact congrArg some (readCode_fixedHex 2 h rest)
  · split
    · next h => exact congrArg some (readCode_fixedHex 4 h rest)
    · exact congrArg some (readCode_fixedHex 8 (toNat_lt c) rest)

variable {quote : Char}

/-- The two signs that a quoted text may stand between. -/
def IsQuote (quote : Char) : Prop := quote = '\x27' ∨ quote = '"'

/-- What is written for a character is read as the character, whatever follows. -/
theorem readQuotedChar_quoteChar (hquote : IsQuote quote) (c : Char) (rest : List Char) :
    readQuotedChar (quoteChar quote c ++ rest) = some (c, rest) := by
  rw [quoteChar]
  split
  · next h =>
    -- the quotes and the backslash are no letters that stand for anything else
    rw [Bool.or_eq_true, beq_iff_eq, beq_iff_eq] at h
    obtain rfl | rfl := h
    · obtain rfl | rfl := hquote <;> rfl
    · rfl
  · next hmark =>
    rw [Bool.or_eq_true, beq_iff_eq, beq_iff_eq, not_or] at hmark
    split
    · next h => rw [eq_of_beq h]; rfl
    · split
      · next h => rw [eq_of_beq h]; rfl
      · split
        · next h => rw [eq_of_beq h]; rfl
        · split
          · exact readQuotedChar_of_ne hmark.2 rest
          · exact readQuotedChar_escapedCode c rest

/-- What is written for a character does not begin with the quote. -/
theorem exists_quoteChar_eq_cons (hquote : IsQuote quote) (c : Char) :
    ∃ first rest, quoteChar quote c = first :: rest ∧ first ≠ quote := by
  have hescape : '\\' ≠ quote := by
    obtain rfl | rfl := hquote <;> decide
  rw [quoteChar]
  split
  · exact ⟨_, _, rfl, hescape⟩
  · next hmark =>
    rw [Bool.or_eq_true, beq_iff_eq, beq_iff_eq, not_or] at hmark
    split
    · exact ⟨_, _, rfl, hescape⟩
    · split
      · exact ⟨_, _, rfl, hescape⟩
      · split
        · exact ⟨_, _, rfl, hescape⟩
        · split
          · exact ⟨_, _, rfl, hmark.1⟩
          · rw [escapedCode]
            split
            · exact ⟨_, _, rfl, hescape⟩
            · split <;> exact ⟨_, _, rfl, hescape⟩

/-! ## Texts -/

/-- A closing quote does not begin another character. -/
theorem quote_ne_flatMap_quoteChar (hquote : IsQuote quote) (c : Char) (cs x y : List Char) :
    quote :: x ≠ (c :: cs).flatMap (quoteChar quote) ++ y := by
  obtain ⟨first, rest, hchar, hne⟩ := exists_quoteChar_eq_cons hquote c
  rw [List.flatMap_cons, hchar]
  intro heq
  exact hne (List.cons.inj heq).1.symm

/-- By induction on the text: its first character is read off what is written, and so is its end. -/
theorem flatMap_quoteChar_inj (hquote : IsQuote quote) :
    ∀ {cs ds x y : List Char}, cs.flatMap (quoteChar quote) ++ quote :: x =
      ds.flatMap (quoteChar quote) ++ quote :: y → cs = ds ∧ x = y
  | [], [], _, _, h => ⟨rfl, (List.cons.inj h).2⟩
  | [], d :: ds, x, y, h => absurd h (quote_ne_flatMap_quoteChar hquote d ds x (quote :: y))
  | c :: cs, [], x, y, h => absurd h.symm (quote_ne_flatMap_quoteChar hquote c cs y (quote :: x))
  | c :: cs, d :: ds, x, y, h => by
    rw [List.flatMap_cons, List.flatMap_cons, List.append_assoc, List.append_assoc] at h
    have hread := congrArg readQuotedChar h
    rw [readQuotedChar_quoteChar hquote, readQuotedChar_quoteChar hquote] at hread
    obtain ⟨rfl, hrest⟩ := Prod.mk.inj (Option.some.inj hread)
    obtain ⟨rfl, rfl⟩ := flatMap_quoteChar_inj hquote hrest
    exact ⟨rfl, rfl⟩

theorem isQuote_quoteSign (cs : List Char) : IsQuote (quoteSign cs) := by
  rw [quoteSign]
  split
  · exact .inr rfl
  · exact .inl rfl

theorem toList_quoted (s : String) :
    (quoted s).toList =
      quoteSign s.toList :: (s.toList.flatMap (quoteChar (quoteSign s.toList)) ++
        [quoteSign s.toList]) := by
  rw [quoted, String.toList_ofList, List.cons_append]

/-- **A quoted text is the quotation of one text only,** whatever follows it. -/
theorem quoted_append_inj {s t rest rest' : String} (h : quoted s ++ rest = quoted t ++ rest') :
    s = t ∧ rest = rest' := by
  have hchars := congrArg String.toList h
  rw [String.toList_append, String.toList_append, toList_quoted, toList_quoted, List.cons_append,
    List.cons_append, List.append_assoc, List.append_assoc] at hchars
  obtain ⟨hsign, hchars⟩ := List.cons.inj hchars
  rw [hsign] at hchars
  obtain ⟨hs, hrest⟩ := flatMap_quoteChar_inj (isQuote_quoteSign t.toList) hchars
  exact ⟨String.toList_inj.mp hs, String.toList_inj.mp hrest⟩

end ODataExplorer.Text
