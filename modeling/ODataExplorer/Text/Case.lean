import ODataExplorer.Text.CaseTable

/-!
Upper and lower case of whole texts.

Most characters map to one character, some to several. Only the capital sigma looks at its
surroundings: at the end of a word it becomes the final form.
-/

namespace ODataExplorer.Text

/-- The characters one character becomes under a mapping given by runs and expansions. -/
def mapCase (runs : List CaseRun) (expansions : List (Nat × List Nat)) (c : Char) : List Char :=
  let n := c.toNat
  match runs.find? fun (low, high, step, _) => low ≤ n && n ≤ high && (n - low) % step == 0 with
  | some (_, _, _, shift) => [Char.ofNat (n + shift).toNat]
  | none =>
    match expansions.lookup n with
    | some codes => codes.map Char.ofNat
    | none => [c]

/-- The upper case of a text. -/
def upper (s : String) : String :=
  String.ofList (s.toList.flatMap (mapCase upperRuns upperExpansions))

/-- Whether the nearest character that case rules do not look through has a case. -/
def meetsCasedLetter (cs : List Char) : Bool :=
  match cs.dropWhile caseIgnorable.holds with
  | c :: _ => casedLetters.holds c
  | [] => false

/-- Lower case, character by character; `before` holds what was passed, nearest first. -/
def lowerFrom (before : List Char) : List Char → List Char
  | [] => []
  | c :: cs =>
    let image :=
      if c == 'Σ' then
        if meetsCasedLetter before && !meetsCasedLetter cs then ['ς'] else ['σ']
      else mapCase lowerRuns lowerExpansions c
    image ++ lowerFrom (c :: before) cs

/-- The lower case of a text. -/
def lower (s : String) : String :=
  String.ofList (lowerFrom [] s.toList)

/-- The lower case of an ASCII letter; any other character stands for itself. -/
def asciiLower (c : Char) : Char :=
  if 'A' ≤ c && c ≤ 'Z' then Char.ofNat (c.toNat + 32) else c

/-- A text with its ASCII letters in lower case. -/
def asciiLowerText (s : String) : String :=
  String.ofList (s.toList.map asciiLower)

end ODataExplorer.Text
