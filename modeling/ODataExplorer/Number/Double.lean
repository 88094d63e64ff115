/-!
Numbers in binary floating point with 53 bits of precision.

A finite number is a sign, a mantissa and an exponent of two, so every question about it is one
about integers. The nearest number to a quotient is found by scaling the quotient until it has 53
bits before the point and rounding it there, a half to the even neighbour.
-/

namespace ODataExplorer

/-- A number in double precision. A finite one is `± mantissa · 2 ^ exponent`, with a mantissa
below `2 ^ 53` that has 53 bits unless the exponent is the least one, `-1074`. -/
inductive Double where
  | nan
  | infinite (negative : Bool)
  | finite (negative : Bool) (mantissa : Nat) (exponent : Int)
  deriving DecidableEq, Repr, Inhabited

namespace Double

/-- A power of two. -/
def twoTo (n : Nat) : Nat := Nat.pow 2 n

/-- A power of ten. -/
def tenTo (n : Nat) : Nat := Nat.pow 10 n

/-- The bit that the mantissas of most numbers start with. -/
def leadingBit : Nat := twoTo 52

/-- The least exponent. -/
def minExponent : Int := -1074

/-- The greatest exponent. -/
def maxExponent : Int := 971

/-- Zero, with its sign. -/
def zero (negative : Bool) : Double := .finite negative 0 minExponent

/-- A quotient rounded to the nearest integer, a half to the even one. -/
def roundHalfEven (num den : Nat) : Nat :=
  let quotient := num / den
  let twice := 2 * (num % den)
  if twice < den then quotient
  else if twice > den then quotient + 1
  else quotient + quotient % 2

/-- The exponent of the greatest power of two that does not exceed the quotient. -/
def binaryOrder (num den : Nat) : Int :=
  let estimate : Int := (num.log2 : Int) - den.log2
  let fits :=
    if estimate ≥ 0 then den * twoTo estimate.toNat ≤ num
    else den ≤ num * twoTo (-estimate).toNat
  if fits then estimate else estimate - 1

/-- The number nearest to the quotient of two positive integers. -/
def nearest (negative : Bool) (num den : Nat) : Double :=
  if num == 0 || den == 0 then zero negative
  else
    let exponent := max (binaryOrder num den - 52) minExponent
    let mantissa :=
      if exponent ≥ 0 then roundHalfEven num (den * twoTo exponent.toNat)
      else roundHalfEven (num * twoTo (-exponent).toNat) den
    let (mantissa, exponent) :=
      if mantissa == 2 * leadingBit then (leadingBit, exponent + 1) else (mantissa, exponent)
    if exponent > maxExponent then .infinite negative else .finite negative mantissa exponent

/-- The number nearest to `digits · 10 ^ exponent`. Exponents that leave the range whatever the
digits are decided without computing the power. -/
def ofDecimal (negative : Bool) (digits : Nat) (exponent : Int) : Double :=
  if digits == 0 then zero negative
  else if exponent > 400 then .infinite negative
  else if exponent + (digits.log2 / 3 + 1 : Nat) < -400 then zero negative
  else if exponent ≥ 0 then nearest negative (digits * tenTo exponent.toNat) 1
  else nearest negative digits (tenTo (-exponent).toNat)

/-- The magnitude of a finite number without its fraction, and whether there was one. -/
def wholeAndFraction (mantissa : Nat) (exponent : Int) : Nat × Bool :=
  if exponent ≥ 0 then (mantissa * twoTo exponent.toNat, false)
  else
    let unit := twoTo (-exponent).toNat
    (mantissa / unit, mantissa % unit != 0)

/-- A magnitude with a sign. -/
def signed (negative : Bool) (magnitude : Nat) : Int :=
  if negative then -(magnitude : Int) else magnitude

/-- The integer a finite number is, if it has no fraction. -/
def toInt? : Double → Option Int
  | .finite negative mantissa exponent =>
    match wholeAndFraction mantissa exponent with
    | (whole, false) => some (signed negative whole)
    | (_, true) => none
  | _ => none

/-- A finite number without its fraction. -/
def truncated? : Double → Option Int
  | .finite negative mantissa exponent =>
    some (signed negative (wholeAndFraction mantissa exponent).1)
  | _ => none

/-- Whether a number is neither infinite nor undefined. -/
def isFinite : Double → Bool
  | .finite .. => true
  | _ => false

end Double

end ODataExplorer
