import ODataExplorer.Json.Reader
import ODataExplorer.Proofs.Outcome

/-!
How JSON texts begin.

The first character of a text that is not space opens a value, and there are only a few that do
(`head?_of_readDocument`).
-/

namespace ODataExplorer.Json

open Text

/-- The characters that open a value: of a string, an array, an object, a number, a word. -/
def isOpening (c : Char) : Bool :=
  c == '"' || c == '[' || c == '\x7b' || c == '-' || isAsciiDigit c ||
    c == 'n' || c == 't' || c == 'f' || c == 'N' || c == 'I'

/-- A text opens a value. -/
def Opens (cs : List Char) : Prop := ∃ c ∈ cs.head?, isOpening c = true

variable {room : Room} {cs rest : List Char} {value : Json}

theorem opens_cons {c : Char} (h : isOpening c = true) : Opens (c :: cs) := ⟨c, rfl, h⟩

/-- The digits before the point open a number. -/
theorem opens_of_wholePart (h : (wholePart cs).1.isEmpty = false) : Opens cs := by
  cases cs with
  | nil => cases h
  | cons c cs =>
    cases hdigit : isAsciiDigit c with
    | true =>
      refine opens_cons ?_
      simp only [isOpening, hdigit, Bool.or_true, Bool.true_or]
    | false =>
      have hzero : c ≠ '0' := fun hzero => by
        rw [hzero] at hdigit
        cases hdigit
      have hwhole : wholePart (c :: cs) = ([], c :: cs) := by
        rw [wholePart]
        · rw [List.takeWhile_cons_of_neg (by rw [hdigit]; exact Bool.false_ne_true),
            List.dropWhile_cons_of_neg (by rw [hdigit]; exact Bool.false_ne_true)]
        · intro rest heq
          exact hzero (List.cons.inj heq).1
      rw [hwhole] at h
      cases h

/-- A number is opened by its sign or by its first digit. -/
theorem opens_of_readNumber : readNumber cs = .ok (value, rest) → Opens cs := by
  fun_cases readNumber cs with
  | case1 =>
    intro h
    cases h
  | case2 negative unsigned hsign whole _ hwhole hsome
  | case3 negative unsigned hsign whole _ hwhole hsome
  | case4 negative unsigned hsign whole _ hwhole hsome =>
    intro _
    split at hsign
    · exact opens_cons rfl
    · cases hsign
      refine opens_of_wholePart ?_
      rw [hwhole]
      exact Bool.eq_false_iff.mpr hsome

/-- Every word is opened by its first character. -/
theorem opens_of_word {word : List Char} {value : Json} (hword : (word, value) ∈ words)
    (hbegins : word.isPrefixOf cs = true) : Opens cs := by
  obtain ⟨after, rfl⟩ := List.isPrefixOf_iff_prefix.mp hbegins
  simp only [words, List.mem_cons, Prod.mk.injEq, List.not_mem_nil, or_false] at hword
  rcases hword with ⟨rfl, -⟩ | ⟨rfl, -⟩ | ⟨rfl, -⟩ | ⟨rfl, -⟩ | ⟨rfl, -⟩ | ⟨rfl, -⟩
  all_goals exact opens_cons rfl

theorem opens_of_readScalar (h : readScalar cs = .ok (value, rest)) : Opens cs := by
  rw [readScalar] at h
  split at h
  · next word value hfound =>
    have hbegins := List.find?_some hfound
    exact opens_of_word (List.mem_of_find?_eq_some hfound) hbegins
  · exact opens_of_readNumber h

/-- What is read as a value opens one. -/
theorem opens_of_readValue {fuel : Nat} :
    readValue fuel room cs = .ok (value, rest) → Opens cs := by
  fun_cases readValue fuel room cs with
  | case1 =>
    intro h
    cases h
  | case2 | case3 | case4 | case5 | case6 | case7 | case8 => exact fun _ => opens_cons rfl
  | case9 => exact opens_of_readScalar

/-- A byte order mark is no part of a JSON text. -/
theorem head?_ne_mark (h : readDocument room cs = .ok value) : cs.head? ≠ some '\uFEFF' := by
  intro hmark
  obtain ⟨rest, rfl⟩ := List.head?_eq_some_iff.mp hmark
  cases h

/-- **The first character of a JSON text that is not space opens a value.** -/
theorem opens_of_readDocument : readDocument room cs = .ok value → Opens (skipSpace cs) := by
  fun_cases readDocument room cs with
  | case1 =>
    intro h
    cases h
  | case2 =>
    intro h
    obtain ⟨⟨value, rest⟩, hvalue, -⟩ := bind_eq_ok.mp h
    exact opens_of_readValue hvalue

end ODataExplorer.Json
