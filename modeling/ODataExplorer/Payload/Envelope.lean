import ODataExplorer.Json.Value
import ODataExplorer.Number.Reading

/-!
The envelopes of responses.

Services wrap their rows in several ways and do not always answer in the dialect they declare, so
only the shape of a payload counts: `value` with a list, or `d` with `results`, a list, or a single
entity. Anything else is its own rows.
-/

namespace ODataExplorer.Payload

open Text

/-- The rows inside the older wrapper. -/
def wrappedRows? : Json → Option Json
  | .array items => some (.array items)
  | .object members =>
    match members.lookup "results" with
    | some (.array items) => some (.array items)
    | _ => some (.object members)
  | _ => none

/-- The rows of a payload; an absent payload has none. -/
def rows (payload : Json) : Json :=
  match payload with
  | .null => .array []
  | .object members =>
    match members.lookup "value" with
    | some (.array items) => .array items
    | _ => ((members.lookup "d").bind wrappedRows?).getD payload
  | _ => payload

/-- The count a value gives: an integer, or a text of digits. A text of digits without a place in
numbers is one that cannot be read. -/
def countOf : Json → Except Number.IntegerFault (Option Int)
  | .int n => .ok (some n)
  | .string text =>
    let trimmed := trim text
    if isDigitText trimmed then (Number.readInteger trimmed).map some else .ok none
  | _ => .ok none

/-- The count under one of several names: the first that gives one. -/
def firstCount (members : List (String × Json)) :
    List String → Except Number.IntegerFault (Option Int)
  | [] => .ok none
  | name :: names => do
    match ← countOf ((members.lookup name).getD .null) with
    | some n => return some n
    | none => firstCount members names

/-- The names a count may have, newest dialect first. -/
def countNames : List String := ["@odata.count", "odata.count", "__count"]

/-- The total number of rows that the service says there are. -/
def totalCount : Json → Except Number.IntegerFault (Option Int)
  | .object members => do
    match ← firstCount members countNames with
    | some n => return some n
    | none =>
      match members.lookup "d" with
      | some (.object inner) => countOf ((inner.lookup "__count").getD .null)
      | _ => return none
  | _ => .ok none

end ODataExplorer.Payload
