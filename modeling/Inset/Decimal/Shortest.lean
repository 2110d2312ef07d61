import Inset.Decimal.Nearest

/-!
# The fewest digits that read back

A finite double is shown by the shortest decimal among those that are nearer
to it than to any other double; of the shortest ones the nearest is chosen.
The search walks through the grids of 1, 2, … 17 digits and tests the two
points of each grid that enclose the value.
-/

namespace Inset.Decimal

/-- A decimal number `0.d₁d₂…dₙ * 10 ^ point` by its digits; zero has none. -/
structure Digits where
  digits : List Nat
  point : Int
  deriving DecidableEq, Inhabited

/-- The significand and exponent of the bits of a finite positive double. -/
def parts (bits : Nat) : Nat × Int :=
  let biased : Nat := bits / Nat.pow 2 52
  let low : Nat := bits % Nat.pow 2 52
  if biased = 0 then (low, leastExponent)
  else (Nat.pow 2 52 + low, (biased : Int) - 1 + leastExponent)

/-- Which of two equally near decimals is chosen. -/
inductive Tie
  | up
  | even
  deriving DecidableEq

/-- `value * 10 ^ exponent` as a quotient. -/
def scaledTen (value : Nat) (exponent : Int) : Nat × Nat :=
  if 0 ≤ exponent then (value * Nat.pow 10 exponent.toNat, 1)
  else (value, Nat.pow 10 (-exponent).toNat)

/-- The interval of numbers that round to a double, in units of `2 ^ scale`:
the lower end, the value, the upper end, and whether the ends belong to it. -/
structure Interval where
  lower : Nat
  value : Nat
  upper : Nat
  scale : Int
  closed : Bool

/-- The interval around the double with the given bits.  Below a power of two
the doubles are twice as dense. -/
def intervalOf (bits : Nat) : Interval :=
  let (significand, exponent) := parts bits
  let narrow := significand = Nat.pow 2 52 ∧ leastExponent < exponent
  { lower := 4 * significand - if narrow then 1 else 2
    value := 4 * significand
    upper := 4 * significand + 2
    scale := exponent - 2
    closed := significand % 2 = 0 }

/-- Compare a grid point with a bound: `point * 10 ^ grid` against
`bound * 2 ^ scale`. -/
def compareOnGrid (point : Nat) (grid : Int) (bound : Nat) (scale : Int) : Ordering :=
  let (a, b) := scaledTen point grid
  let (c, d) := scaled bound scale
  compare (a * d) (c * b)

/-- Whether a grid point rounds to the double. -/
def Interval.holds (interval : Interval) (point : Nat) (grid : Int) : Bool :=
  let low := compareOnGrid point grid interval.lower interval.scale
  let high := compareOnGrid point grid interval.upper interval.scale
  (low == .gt || (interval.closed && low == .eq)) &&
    (high == .lt || (interval.closed && high == .eq))

/-- The point of the grid `10 ^ grid` that is chosen for the double, if one of
the two neighbours of its value rounds to it. -/
def Interval.choose? (interval : Interval) (tie : Tie) (grid : Int) : Option Nat :=
  let (a, b) := scaled interval.value interval.scale
  let (c, d) := scaledTen 1 grid
  let below := a * d / (b * c)
  let above := below + 1
  match interval.holds below grid && below ≠ 0, interval.holds above grid with
  | false, false => none
  | true, false => some below
  | false, true => some above
  | true, true =>
      match compareOnGrid (2 * below + 1) grid (2 * interval.value) interval.scale with
      | .gt => some below
      | .lt => some above
      | .eq => some (if tie = .up ∨ below % 2 = 1 then above else below)

/-- The decimal digits of a number, most significant first; zero has none. -/
def digitsOf (value : Nat) : List Nat :=
  if value = 0 then [] else digitsOf (value / 10) ++ [value % 10]

/-- Drop the zeros at the end of a digit list. -/
def dropTrailingZeros (digits : List Nat) : List Nat :=
  (digits.reverse.dropWhile (· = 0)).reverse

/-- The place of the decimal point of a positive quotient: the least `point`
with `numerator / denominator < 10 ^ point`. -/
def pointOf (numerator denominator : Nat) : Int :=
  if denominator ≤ numerator then (digitsOf (numerator / denominator)).length
  else
    let inverse := (denominator + numerator - 1) / numerator
    1 - (digitsOf (inverse - 1)).length

/-- The first grid, from coarse to fine, with a point for the double. -/
def Interval.search (interval : Interval) (tie : Tie) (grid : Int) : Nat → Digits
  | 0 => ⟨[], 0⟩
  | tries + 1 =>
      match interval.choose? tie grid with
      | some point =>
          let digits := digitsOf point
          ⟨dropTrailingZeros digits, digits.length + grid⟩
      | none => interval.search tie (grid - 1) tries

/-- The shortest digits of the finite positive double with the given bits. -/
def shortest (tie : Tie) (bits : Nat) : Digits :=
  if bits = 0 then ⟨[], 0⟩
  else
    let interval := intervalOf bits
    let (a, b) := scaled interval.value interval.scale
    interval.search tie (pointOf a b) 18

end Inset.Decimal
