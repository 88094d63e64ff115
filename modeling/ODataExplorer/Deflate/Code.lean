import ODataExplorer.Deflate.Tape

/-!
Prefix codes.

A code is a tree: each bit leads down one of two branches, and a leaf is a symbol. A code is given
by the lengths of the codes of its symbols alone: shorter codes come before longer ones, and of equal
lengths those of lower symbols come first. The lengths have to use up the tree, unless there is but
one symbol, with a code of one bit, or none.
-/

namespace ODataExplorer.Deflate

/-- A prefix code. A leaf may be without a symbol. -/
inductive Code where
  | leaf (symbol? : Option Nat)
  | branch (zero one : Code)
  deriving Repr

namespace Code

/-- Reads a symbol, if the next bits are the code of one. -/
def read : Code → Reading (Option Nat)
  | .leaf symbol? => return symbol?
  | .branch zero one => do if ← nextBit then one.read else zero.read

/-- The most bits of a code. -/
def maxLength : Nat := 15

/-- The tree below a depth for symbols in order, each with its length, and the symbols that are left
after it. `room` is how much deeper the tree may go. -/
def grow (depth : Nat) : Nat → List (Nat × Nat) → Code × List (Nat × Nat)
  | _, [] => (.leaf none, [])
  | 0, (_, symbol) :: rest => (.leaf (some symbol), rest)
  | room + 1, (length, symbol) :: rest =>
    if length ≤ depth then (.leaf (some symbol), rest)
    else
      let (zero, rest) := grow (depth + 1) room ((length, symbol) :: rest)
      let (one, rest) := grow (depth + 1) room rest
      (.branch zero one, rest)

/-- The symbols that have a code, each with its length, in the order of their codes. -/
def ordered (lengths : List Nat) : List (Nat × Nat) :=
  (lengths.zipIdx.filter fun (length, _) => length != 0).mergeSort fun a b => a.1 ≤ b.1

/-- How much of the tree some lengths use, in units of the deepest leaf. -/
def used (lengths : List Nat) : Nat :=
  (lengths.filter (· != 0)).foldl (fun total length => total + Nat.pow 2 (maxLength - length)) 0

/-- Whether lengths use up the tree. -/
def isComplete (lengths : List Nat) : Bool := used lengths == Nat.pow 2 maxLength

/-- The code of some lengths that use up the tree. -/
def ofComplete (lengths : List Nat) : Code := (grow 0 maxLength (ordered lengths)).1

/-- A code of one bit. -/
def ofBit (zero? one? : Option Nat) : Code := .branch (.leaf zero?) (.leaf one?)

/-- The code of some lengths. -/
def ofLengths? (lengths : List Nat) : Option Code :=
  match ordered lengths with
  | [] => some (ofBit none none)
  | [(1, symbol)] => some (ofBit (some symbol) none)
  | _ => if isComplete lengths then some (ofComplete lengths) else none

end Code

end ODataExplorer.Deflate
