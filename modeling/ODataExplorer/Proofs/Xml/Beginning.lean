import ODataExplorer.Proofs.Outcome
import ODataExplorer.Proofs.Xml.Source
import ODataExplorer.Xml.Reader

/-!
How documents begin.

Everything that may stand before the root element, and the root element itself, opens with an angle
bracket. So the first character of a document that is not space is one (`head?_of_readDocument`).
The scanner of the prolog knows many tokens that open otherwise, but none of them has a place there.

The same can be said of the text that a document is read from (`head?_of_read`), except for two
signs that the reading of its bytes takes away: a byte order mark, and a zero.
-/

namespace ODataExplorer.Xml

/-- The tokens that may stand outside the root element, and its bracket. -/
def PrologToken.isMarkup : PrologToken → Bool
  | .comment | .processing | .xmlDeclaration _ | .openDeclaration _ | .rootElement => true
  | _ => false

variable {cs rest : List Char} {token : PrologToken}

/-! ## Tokens that open otherwise -/

theorem isMarkup_scanLiteral {quote : Char} (h : scanLiteral quote cs = some (token, rest)) :
    token.isMarkup = false := by
  cases hscan : scanUntil quote cs with
  | none =>
    rw [scanLiteral, hscan] at h
    cases h
  | some found =>
    simp only [scanLiteral, hscan, Option.ite_none_right_eq_some] at h
    cases h.2
    rfl

theorem isMarkup_finish (kind : NameKind) (done : List Char) :
    (scanNameRun.finish kind done).isMarkup = false := by
  cases kind <;> rfl

theorem isMarkup_scanNameRun {kind : NameKind} {done : List Char}
    (h : scanNameRun kind done cs = some (token, rest)) : token.isMarkup = false := by
  fun_induction scanNameRun kind done cs with
  | case1 kind done =>
    cases h
    exact isMarkup_finish kind done
  | case2 _ _ _ _ _ ih => exact ih h
  | case3 => cases h
  | case4 _ _ _ _ _ _ ih => exact ih h
  | case5 _ _ _ _ _ _ _ ih => exact ih h
  | case6 kind done =>
    cases h
    exact isMarkup_finish kind done
  | case7 => cases h
  | case8 =>
    cases h
    rfl
  | case9 => cases h

theorem isMarkup_scanParenthesis :
    scanParenthesis cs = some (token, rest) → token.isMarkup = false := by
  fun_cases scanParenthesis cs with
  | case1 | case2 | case3 | case4 | case5 =>
    intro h
    cases h
    rfl
  | case6 =>
    intro h
    cases h

theorem isMarkup_scanPercent :
    scanPercent cs = some (token, rest) → token.isMarkup = false := by
  fun_cases scanPercent cs with
  | case1 | case4 =>
    intro h
    cases h
  | case2 | case3 =>
    intro h
    cases h
    rfl

theorem isMarkup_scanHashName (h : scanHashName cs = some (token, rest)) :
    token.isMarkup = false := by
  cases hscan : scanSimpleName cs with
  | none =>
    rw [scanHashName, hscan] at h
    cases h
  | some found =>
    simp only [scanHashName, hscan, Option.ite_none_right_eq_some] at h
    cases h.2
    rfl

/-- A token that does not open with a bracket is no markup. -/
theorem isMarkup_scanPrologToken :
    scanPrologToken cs = some (token, rest) → cs.head? ≠ some '<' → token.isMarkup = false := by
  fun_cases scanPrologToken cs with
  | case1 | case14 | case23 =>
    intro h _
    cases h
  | case2 | case3 =>
    intro h _
    exact isMarkup_scanLiteral h
  | case4 | case5 | case6 | case7 | case8 =>
    intro _ hne
    exact absurd rfl hne
  | case9 =>
    intro h _
    exact isMarkup_scanPercent h
  | case10 | case11 | case12 | case13 | case15 | case16 | case18 | case20 =>
    intro h _
    cases h
    rfl
  | case17 =>
    intro h _
    exact isMarkup_scanParenthesis h
  | case19 =>
    intro h _
    exact isMarkup_scanHashName h
  | case21 | case22 =>
    intro h _
    exact isMarkup_scanNameRun h

/-! ## Prologs -/

/-- A prolog that is read to the root element begins with markup. -/
theorem head?_of_readProlog {fuel : Nat} {standalone : Bool} {subset? : Option Subset}
    {read : Declarations × List Char} (h : readProlog fuel standalone subset? cs = .ok read) :
    (skipSpace cs).head? = some '<' := by
  cases fuel with
  | zero => cases h
  | succ fuel =>
    rw [readProlog, withToken, nextToken] at h
    split at h
    · next token rest hscan =>
      by_cases hhead : (skipSpace cs).head? = some '<'
      · exact hhead
      · have hother := isMarkup_scanPrologToken hscan hhead
        cases token with
        | comment | processing | rootElement | openDeclaration => cases hother
        | _ => cases h
    · cases h

/-- Space is no part of what opens with a bracket. -/
theorem skipSpace_of_head? (h : cs.head? = some '<') : skipSpace cs = cs := by
  obtain ⟨rest, rfl⟩ := List.head?_eq_some_iff.mp h
  rfl

theorem head?_of_readBeginning {read : Declarations × List Char}
    (h : readBeginning cs = .ok read) : (skipSpace cs).head? = some '<' := by
  rw [readBeginning] at h
  split at h
  · next content rest hscan =>
    by_cases hhead : cs.head? = some '<'
    · rw [skipSpace_of_head? hhead, hhead]
    · cases isMarkup_scanPrologToken hscan hhead
  · exact head?_of_readProlog h

/-- **The first character of a document that is not space is an angle bracket.** -/
theorem head?_of_readDocument {source : Source} {root : Element}
    (h : readDocument source = .ok root) : (skipSpace source.chars).head? = some '<' := by
  obtain ⟨⟨declarations, rest⟩, hbeginning, -⟩ := bind_eq_ok.mp h
  exact head?_of_readBeginning hbeginning

/-- **The first character of a text in XML that is not space is an angle bracket,** if it is neither
a byte order mark nor a zero. -/
theorem head?_of_read {text : String} {root : Element} (h : read text = .ok root)
    (hmark : text.toList.head? ≠ some '\uFEFF') :
    (skipSpace text.toList).head? = some '<' ∨ (skipSpace text.toList).head? = some '\x00' :=
  head?_ofText hmark (head?_of_readDocument h)

end ODataExplorer.Xml
