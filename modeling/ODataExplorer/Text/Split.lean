/-!
Cutting texts at characters and at words.

Everything is stated on lists of characters. A cut at the first occurrence keeps what stands
before and after it; a cut at the last occurrence is the same cut of the reversed text.
-/

namespace ODataExplorer.Text

/-- The text before the first `sep` and the text after it, or nothing when `sep` does not occur. -/
def cut? (sep : Char) : List Char → Option (List Char × List Char)
  | [] => none
  | c :: cs =>
    if c == sep then some ([], cs)
    else (cut? sep cs).map fun (before, after) => (c :: before, after)

/-- The text before the first `sep`; the whole text when `sep` does not occur. -/
def beforeFirst (sep : Char) (cs : List Char) : List Char :=
  cs.takeWhile (· != sep)

/-- The text after the last `sep`; the whole text when `sep` does not occur. -/
def afterLast (sep : Char) (cs : List Char) : List Char :=
  (cs.reverse.takeWhile (· != sep)).reverse

/-- The pieces between occurrences of `sep`: always one more than there are occurrences. -/
def pieces (sep : Char) : List Char → List (List Char)
  | [] => [[]]
  | c :: cs =>
    if c == sep then [] :: pieces sep cs
    else match pieces sep cs with
      | piece :: rest => (c :: piece) :: rest
      | [] => [[c]]

/-- The text before the first occurrence of the word and the text after it. -/
def cutWord? (word : List Char) : List Char → Option (List Char × List Char)
  | [] => if word.isEmpty then some ([], []) else none
  | c :: cs =>
    if word.isPrefixOf (c :: cs) then some ([], (c :: cs).drop word.length)
    else (cutWord? word cs).map fun (before, after) => (c :: before, after)

/-- The pieces between occurrences of a word, read from the left. The fuel bounds the number of
occurrences; the length of the text is always enough. -/
def wordPiecesUpTo (word : List Char) : Nat → List Char → List (List Char)
  | 0, cs => [cs]
  | fuel + 1, cs =>
    match cutWord? word cs with
    | none => [cs]
    | some (before, after) => before :: wordPiecesUpTo word fuel after

/-- The pieces between occurrences of a non-empty word. -/
def wordPieces (word : List Char) (cs : List Char) : List (List Char) :=
  wordPiecesUpTo word cs.length cs

/-- Whether the text ends with the word. -/
def endsWith (word cs : List Char) : Bool :=
  word.isSuffixOf cs

/-- The characters that end a line. -/
def isLineEnd (c : Char) : Bool :=
  ('\n' ≤ c && c ≤ '\r') || ('\x1c' ≤ c && c ≤ '\x1e') || c == '\x85' || c == '\u2028' ||
    c == '\u2029'

/-- The lines of a text. A line end at the end of the text starts no further line. -/
def lines : List Char → List (List Char)
  | [] => []
  | '\r' :: '\n' :: cs => [] :: lines cs
  | c :: cs =>
    if isLineEnd c then [] :: lines cs
    else match lines cs with
      | line :: rest => (c :: line) :: rest
      | [] => [[c]]

/-- The texts one after another, with `sep` between neighbours. -/
def joinWith (sep : List Char) : List (List Char) → List Char
  | [] => []
  | [piece] => piece
  | piece :: rest => piece ++ sep ++ joinWith sep rest

/-- The texts one after another, with `sep` between neighbours. -/
def joined (sep : String) (texts : List String) : String :=
  String.ofList (joinWith sep.toList (texts.map String.toList))

/-- The names of a list in order of first occurrence, each once. -/
def unique (names : List String) : List String :=
  names.foldl (fun kept name => if kept.contains name then kept else kept ++ [name]) []

end ODataExplorer.Text
