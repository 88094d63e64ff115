/-!
Classes of characters given by code point ranges.

A class is a list of closed ranges `(low, high)`. Membership is a scan of the list, so that a
statement about a class is a statement about finitely many comparisons of numbers.
-/

namespace ODataExplorer.Text

/-- A class of characters: the closed ranges of code points it covers. -/
abbrev CharClass := List (Nat × Nat)

/-- A class holds a character when one of its ranges covers the code point. -/
def CharClass.holds (ranges : CharClass) (c : Char) : Bool :=
  ranges.any fun range => range.1 ≤ c.toNat && c.toNat ≤ range.2

end ODataExplorer.Text
