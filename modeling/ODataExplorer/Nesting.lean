/-!
How deep things may be nested.

Whoever reads arrays and objects, or walks over elements, goes one step down the stack of the
program for each of them that stands inside another. A room says how many steps the stack has left;
what is nested beyond it cannot be gone through.
-/

namespace ODataExplorer

/-- The room for what is nested: so many levels, or as many as it takes. -/
inductive Room where
  | unbounded
  | levels (count : Nat)
  deriving DecidableEq, Repr

namespace Room

/-- The room inside one more level, if there is a level left. -/
def inside? : Room → Option Room
  | .unbounded => some .unbounded
  | .levels 0 => none
  | .levels (count + 1) => some (.levels count)

/-- Whether something of a depth has room. -/
def fits (depth : Nat) : Room → Bool
  | .unbounded => true
  | .levels count => depth ≤ count

/-- The room of a program that goes through nothing yet. Its interpreter has a stack of a thousand
steps, and a few of them are the program's own. -/
def standard : Room := .levels 950

end Room

end ODataExplorer
