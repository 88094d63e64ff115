import ODataExplorer.Text.Digit
import ODataExplorer.Text.Printable

/-!
Quoted texts, as messages show them.

The quote is `'`, unless the text holds that sign and no `"`. The quote and the backslash are
escaped, line ends and tabs have letters, every other character that is not printable is written
by its code point in two, four or eight hexadecimal digits.
-/

namespace ODataExplorer.Text

/-- The sign a quoted text stands between. -/
def quoteSign (cs : List Char) : Char :=
  if cs.contains '\x27' && !cs.contains '"' then '"' else '\x27'

/-- A character by its code point in two, four or eight hexadecimal digits. -/
def escapedCode (c : Char) : List Char :=
  if c.toNat < 0x100 then '\\' :: 'x' :: fixedHex 2 c.toNat
  else if c.toNat < 0x10000 then '\\' :: 'u' :: fixedHex 4 c.toNat
  else '\\' :: 'U' :: fixedHex 8 c.toNat

/-- One character inside quotes. -/
def quoteChar (quote c : Char) : List Char :=
  if c == quote || c == '\\' then ['\\', c]
  else if c == '\n' then ['\\', 'n']
  else if c == '\r' then ['\\', 'r']
  else if c == '\t' then ['\\', 't']
  else if isPrintable c then [c]
  else escapedCode c

/-- A text between quotes. -/
def quoted (s : String) : String :=
  let cs := s.toList
  let quote := quoteSign cs
  String.ofList (quote :: cs.flatMap (quoteChar quote) ++ [quote])

/-- A text between quotes, or the word for an absent one. -/
def quotedOrNone : Option String → String
  | some s => quoted s
  | none => "None"

end ODataExplorer.Text
