/-!
Query selections: what is asked of one set of entities.

All texts are texts of Unicode scalars; halves of pairs have no place in them.
-/

namespace ODataExplorer.Query

/-- The direction of an order. -/
inductive Direction where
  | ascending
  | descending
  deriving DecidableEq, Repr

/-- The word for a direction. -/
def Direction.word : Direction → String
  | .ascending => "asc"
  | .descending => "desc"

/-- A selection. Everything but the set is optional; filter and order are passed on as they are. -/
structure Selection where
  set : String
  select : List String := []
  expand : List String := []
  filter? : Option String := none
  orderBy? : Option String := none
  direction : Direction := .ascending
  top? : Option Int := none
  skip? : Option Int := none
  count : Bool := false
  deriving DecidableEq, Repr

end ODataExplorer.Query
