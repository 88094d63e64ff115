import ODataExplorer.Number.Double

/-!
The shortest decimal that reads back as a given number.

The reals that round to `m · 2 ^ q` form an interval; its ends belong to it exactly when `m` is
even. Grids of decimals are tried from coarse to fine, and on each only the two neighbours of the
number: if a grid has a point in the interval, one of the two is in it. The first grid with a hit
wins, of two hits the nearer one, and of two equally near ones the even.
-/

namespace ODataExplorer.Double

/-- The reals that round to a number, all scaled by one positive factor: the number itself, the two
ends, and whether the ends belong. -/
structure RoundingInterval where
  low : Nat
  value : Nat
  high : Nat
  closed : Bool

/-- The interval of `mantissa · 2 ^ exponent` in units of `2 ^ (exponent - 2)`. Below a power of two
the neighbours stand half as far apart. -/
def roundingInterval (mantissa : Nat) (exponent : Int) : RoundingInterval where
  low :=
    if mantissa == leadingBit && exponent > minExponent then 4 * mantissa - 1 else 4 * mantissa - 2
  value := 4 * mantissa
  high := 4 * mantissa + 2
  closed := mantissa % 2 == 0

/-- A decimal `digits · 10 ^ exponent`. -/
structure Decimal where
  digits : Nat
  exponent : Int
  deriving DecidableEq, Repr

/-- The best point of the grid `10 ^ grid` in the interval, if there is one. Both sides of each
comparison are multiplied out: a grid point counts `gridUnit`, a unit of the interval `binaryUnit`. -/
def onGrid? (interval : RoundingInterval) (exponent grid : Int) : Option Nat :=
  let scale := exponent - 2
  let gridUnit := twoTo (-scale).toNat * tenTo grid.toNat
  let binaryUnit := twoTo scale.toNat * tenTo (-grid).toNat
  let low := interval.low * binaryUnit
  let value := interval.value * binaryUnit
  let high := interval.high * binaryUnit
  let below := value / gridUnit
  let above := below + 1
  let belowHits :=
    low < below * gridUnit || (interval.closed && low == below * gridUnit)
  let aboveHits :=
    above * gridUnit < high || (interval.closed && above * gridUnit == high)
  match belowHits, aboveHits with
  | false, false => none
  | true, false => some below
  | false, true => some above
  | true, true =>
    let downward := value - below * gridUnit
    let upward := above * gridUnit - value
    if downward < upward then some below
    else if upward < downward then some above
    else some (below + below % 2)

/-- Tries grids from `10 ^ grid` downward. -/
def firstGrid (interval : RoundingInterval) (exponent grid : Int) : Nat → Decimal
  | 0 => ⟨0, 0⟩
  | fuel + 1 =>
    match onGrid? interval exponent grid with
    | some digits => ⟨digits, grid⟩
    | none => firstGrid interval exponent (grid - 1) fuel

/-- The shortest decimal of a positive finite number. The first grid lies at or above its leading
digit, and seventeen digits always suffice. -/
def shortestDecimal (mantissa : Nat) (exponent : Int) : Decimal :=
  let order := (mantissa.log2 : Int) + exponent
  let grid := Int.fdiv (order * 30103) 100000 + 1
  firstGrid (roundingInterval mantissa exponent) exponent grid 20

/-- The decimal digits of an integer. -/
def digitChars (n : Nat) : List Char := (toString n).toList

/-- An exponent with its sign and at least two digits. -/
def exponentText (e : Int) : List Char :=
  let digits := digitChars e.natAbs
  (if e < 0 then '-' else '+') :: (if digits.length < 2 then '0' :: digits else digits)

/-- A positive decimal as text. The digits stand in place when the number lies between `10 ^ -4`
and `10 ^ 16`, with at least one digit after the point; elsewhere the exponent is written. -/
def Decimal.text (decimal : Decimal) : List Char :=
  let digits := digitChars decimal.digits
  let point : Int := digits.length + decimal.exponent
  let order := point - 1
  if -4 ≤ order && order < 16 then
    if point ≤ 0 then '0' :: '.' :: List.replicate (-point).toNat '0' ++ digits
    else if point ≥ digits.length then
      digits ++ List.replicate (point.toNat - digits.length) '0' ++ ['.', '0']
    else digits.take point.toNat ++ '.' :: digits.drop point.toNat
  else
    match digits with
    | [digit] => digit :: 'e' :: exponentText order
    | digit :: rest => digit :: '.' :: rest ++ 'e' :: exponentText order
    | [] => []

/-- The text of a number: the shortest that reads back. -/
def text : Double → String
  | .nan => "nan"
  | .infinite negative => if negative then "-inf" else "inf"
  | .finite negative mantissa exponent =>
    let magnitude :=
      if mantissa == 0 then ['0', '.', '0'] else (shortestDecimal mantissa exponent).text
    String.ofList (if negative then '-' :: magnitude else magnitude)

end ODataExplorer.Double
