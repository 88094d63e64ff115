/-!
Code pages: character sets with one byte for each character.

A page is given by the characters of its last bytes; the bytes before these stand for the characters
of the same number. A byte without a character has the replacement sign in its place.
-/

namespace ODataExplorer.Charset

/-- A code page: its names, in lower case and with underscores between words, and the characters of
its last bytes. -/
structure CodePage where
  names : List String
  upper : String
  deriving DecidableEq, Repr

/-- The text of bytes in a code page. -/
def CodePage.decode (page : CodePage) (bytes : List UInt8) : List Char :=
  let upper := page.upper.toList.toArray
  let first := 256 - upper.size
  bytes.map fun byte =>
    let n := byte.toNat
    if n < first then Char.ofNat n else upper.getD (n - first) '\uFFFD'

end ODataExplorer.Charset
