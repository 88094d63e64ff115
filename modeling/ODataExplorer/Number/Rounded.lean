import ODataExplorer.Number.Shortest

/-!
Numbers with as many digits as are asked for.

A number is rounded on a decimal grid: either on one that is given, a number of places after the
point, or on the one that leaves a given number of digits. What is rounded is the exact value, and
a half goes to the even neighbour.
-/

namespace ODataExplorer.Double

/-- A magnitude counted in units of `10 ^ -places`. -/
def inPlaces (mantissa : Nat) (exponent places : Int) : Nat :=
  roundHalfEven (mantissa * twoTo exponent.toNat * tenTo places.toNat)
    (twoTo (-exponent).toNat * tenTo (-places).toNat)

/-- The exponent of the greatest power of ten that does not exceed a positive magnitude. -/
def decimalOrder (mantissa : Nat) (exponent : Int) : Int :=
  let num := mantissa * twoTo exponent.toNat
  let den := twoTo (-exponent).toNat
  if den ≤ num then (digitChars (num / den)).length - 1
  else -((digitChars ((den - 1) / num)).length : Int)

/-- The decimal of a magnitude with one digit more than `further`: its digits, and the power of ten
that the first of them counts. -/
def leadingDigits (mantissa : Nat) (exponent : Int) (further : Nat) : List Char × Int :=
  if mantissa == 0 then (List.replicate (further + 1) '0', 0)
  else
    let order := decimalOrder mantissa exponent
    let count := inPlaces mantissa exponent (further - order)
    if count == tenTo (further + 1) then (digitChars (count / 10), order + 1)
    else (digitChars count, order)

/-- Digits with a point after the first `whole` of them. Without digits after it, the point is
written only if it is to be kept. -/
def pointed (keepPoint : Bool) (whole : Nat) (digits : List Char) : List Char :=
  match digits.drop whole with
  | [] => digits ++ if keepPoint then ['.'] else []
  | places => digits.take whole ++ '.' :: places

/-- A magnitude with a number of places after the point. -/
def placesText (keepPoint : Bool) (places mantissa : Nat) (exponent : Int) : List Char :=
  let digits := digitChars (inPlaces mantissa exponent places)
  let digits := List.replicate (places + 1 - digits.length) '0' ++ digits
  pointed keepPoint (digits.length - places) digits

/-- A magnitude with one digit before the point, a number of places after it, and the exponent. -/
def scientificText (keepPoint : Bool) (places mantissa : Nat) (exponent : Int) : List Char :=
  let (digits, order) := leadingDigits mantissa exponent places
  pointed keepPoint 1 digits ++ 'e' :: exponentText order

/-- A magnitude with a number of digits, the exponent written only where it is below `-4` or not
below that number. Zeros at the end are left out unless they are to be kept. -/
def generalText (keepZeros : Bool) (count mantissa : Nat) (exponent : Int) : List Char :=
  let count := max count 1
  let (digits, order) := leadingDigits mantissa exponent (count - 1)
  let written (whole : Nat) (digits : List Char) : List Char :=
    let kept :=
      if keepZeros then digits
      else digits.take whole ++ ((digits.drop whole).reverse.dropWhile (· == '0')).reverse
    pointed keepZeros whole kept
  if -4 ≤ order && order < count then
    written (order.toNat + 1) (List.replicate (-order).toNat '0' ++ digits)
  else written 1 digits ++ 'e' :: exponentText order

end ODataExplorer.Double
