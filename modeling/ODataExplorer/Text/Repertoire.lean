import ODataExplorer.Text.Quoted

/-!
Repertoires: the characters that a text may have.

Some texts have to do with the characters below a code point. A complaint about one that does not
names the first characters that are not below it, and where they stand.
-/

namespace ODataExplorer.Text

/-- The characters below a code point, and the name they go by. -/
structure Repertoire where
  name : String
  limit : Nat
  deriving DecidableEq, Repr

namespace Repertoire

def ascii : Repertoire := ⟨"ascii", 0x80⟩

def latin1 : Repertoire := ⟨"latin-1", 0x100⟩

/-- Whether a character belongs. -/
def has (repertoire : Repertoire) (c : Char) : Bool := c.toNat < repertoire.limit

/-- Whether all characters of a text belong. -/
def covers (repertoire : Repertoire) (s : String) : Bool := s.toList.all repertoire.has

/-- The complaint about the first characters of a text that do not belong. -/
def complaint (repertoire : Repertoire) (s : String) : String :=
  let cs := s.toList
  let start := (cs.takeWhile repertoire.has).length
  let run := (cs.drop start).takeWhile (!repertoire.has ·)
  let what :=
    match run with
    | [c] => s!"character '{String.ofList (escapedCode c)}' in position {start}"
    | _ => s!"characters in position {start}-{start + run.length - 1}"
  s!"'{repertoire.name}' codec can't encode {what}: ordinal not in range({repertoire.limit})"

end Repertoire

/-- Whether a character belongs to ASCII. -/
def isAscii (c : Char) : Bool := Repertoire.ascii.has c

end ODataExplorer.Text
