/-!
# The double nearest to a quotient

Doubles are read from and written to exact arithmetic on natural numbers: a
finite positive double is `significand * 2 ^ exponent` with a significand below
`2 ^ 53` and an exponent of at least `-1074`.  The double nearest to a quotient
is found by one rounded division; a tie goes to the even significand, and what
is too large becomes infinite.
-/

namespace Inset.Decimal

/-- The least exponent of a double. -/
def leastExponent : Int := -1074

/-- `value * 2 ^ exponent` as a quotient. -/
def scaled (value : Nat) (exponent : Int) : Nat × Nat :=
  if 0 ≤ exponent then (value * Nat.pow 2 exponent.toNat, 1)
  else (value, Nat.pow 2 (-exponent).toNat)

/-- The quotient rounded to the nearest integer, a tie to the even one. -/
def roundHalfEven (numerator denominator : Nat) : Nat :=
  let quotient := numerator / denominator
  let twice := 2 * (numerator % denominator)
  if twice < denominator then quotient
  else if denominator < twice then quotient + 1
  else quotient + quotient % 2

/-- The bits of the infinite double. -/
def infinityBits : Nat := 0x7ff * Nat.pow 2 52

/-- The exponent at which the quotient has a significand of 53 bits, or the
least exponent if that one is larger. -/
def exponentOf (numerator denominator : Nat) : Int :=
  let guess : Int := (numerator.log2 : Int) - (denominator.log2 : Int) - 53
  let bottom := scaled denominator guess
  let exponent :=
    if numerator * bottom.2 / bottom.1 < Nat.pow 2 53 then guess else guess + 1
  max exponent leastExponent

/-- The bits of the double nearest to a positive quotient. -/
def nearestBits (numerator denominator : Nat) : Nat :=
  if numerator = 0 then 0
  else
    let exponent := exponentOf numerator denominator
    let bottom := scaled denominator exponent
    let significand := roundHalfEven (numerator * bottom.2) bottom.1
    min infinityBits ((exponent - leastExponent).toNat * Nat.pow 2 52 + significand)

/-- The double nearest to a quotient. -/
def nearest (numerator denominator : Nat) : Float :=
  Float.ofBits (UInt64.ofNat (nearestBits numerator denominator))

/-- The double nearest to `digits * 10 ^ exponent`. -/
def nearestTen (digits : Nat) (exponent : Int) : Float :=
  if 0 ≤ exponent then nearest (digits * Nat.pow 10 exponent.toNat) 1
  else nearest digits (Nat.pow 10 (-exponent).toNat)

end Inset.Decimal
