/-!
Blank characters and the trimming of texts.

The class is Unicode white space together with the four separators U+001C to U+001F. Trimming
removes it from both ends and nothing from the middle.
-/

namespace ODataExplorer.Text

/-- Unicode white space and the information separators U+001C to U+001F. -/
def isBlank (c : Char) : Bool :=
  let n := c.toNat
  (9 ≤ n && n ≤ 13) || (28 ≤ n && n ≤ 32) || n == 0x85 || n == 0xA0 || n == 0x1680 ||
  (0x2000 ≤ n && n ≤ 0x200A) || n == 0x2028 || n == 0x2029 || n == 0x202F || n == 0x205F ||
  n == 0x3000

/-- Drops the longest run of characters of a class from the end. -/
def dropEndWhile (p : Char → Bool) (cs : List Char) : List Char :=
  (cs.reverse.dropWhile p).reverse

/-- Drops the longest runs of characters of a class from both ends. -/
def trimWhile (p : Char → Bool) (cs : List Char) : List Char :=
  dropEndWhile p (cs.dropWhile p)

/-- A text without the blanks at its ends. -/
def trim (s : String) : String :=
  String.ofList (trimWhile isBlank s.toList)

/-- A text of blanks only; the empty text is one. -/
def isBlankText (s : String) : Bool :=
  s.toList.all isBlank

/-- A text without the slashes at its end. -/
def dropTrailingSlashes (s : String) : String :=
  String.ofList (dropEndWhile (· == '/') s.toList)

end ODataExplorer.Text
