import Inset.Decimal.Shortest

/-!
# How doubles are written

A style fixes where positional writing ends and how ties between two shortest
decimals are settled.  A written double always shows a point or an exponent.
-/

namespace Inset.Decimal

/-- The choices of a format for the text of a double. -/
structure Style where
  /-- The places of the decimal point at which the digits are written
  positionally; everywhere if none is given. -/
  positional : Option (Int × Int)
  tie : Tie
  notANumber : String
  infinity : String

/-- Manifests show a double positionally, however long that is. -/
def Style.plain : Style :=
  { positional := none, tie := .up, notANumber := "NaN", infinity := "inf" }

/-- JSON messages show a double positionally from `1e-5` to below `1e16`. -/
def Style.json : Style :=
  { positional := some (-4, 16), tie := .even, notANumber := "null", infinity := "null" }

/-- The digit characters of a digit list. -/
def digitChars (digits : List Nat) : List Char :=
  digits.map fun digit => Char.ofNat (0x30 + digit)

/-- The digits around a point, with zeros where they do not reach it. -/
def Digits.positional (number : Digits) : List Char :=
  let digits := digitChars number.digits
  if number.point ≤ 0 then
    '0' :: '.' :: (List.replicate (-number.point).toNat '0' ++
      if digits.isEmpty then ['0'] else digits)
  else
    let whole := number.point.toNat
    let fraction := digits.drop whole
    digits.take whole ++ List.replicate (whole - digits.length) '0' ++
      '.' :: if fraction.isEmpty then ['0'] else fraction

/-- One digit, the other digits after a point, and a signed exponent. -/
def Digits.exponential (number : Digits) : List Char :=
  let digits := digitChars number.digits
  let exponent := number.point - 1
  let fraction := digits.drop 1
  digits.take 1 ++ (if fraction.isEmpty then [] else '.' :: fraction) ++
    'e' :: (if exponent < 0 then '-' else '+') ::
      (Nat.repr exponent.natAbs).toList

/-- The text of a finite positive double or zero. -/
def Style.digits (style : Style) (number : Digits) : List Char :=
  match style.positional with
  | none => number.positional
  | some (low, high) =>
      if low ≤ number.point ∧ number.point ≤ high then number.positional
      else number.exponential

/-- The text of a double. -/
def Style.text (style : Style) (value : Float) : String :=
  let bits := value.toBits.toNat
  let magnitude := bits % Nat.pow 2 63
  if infinityBits < magnitude then style.notANumber
  else
    let sign := if Nat.pow 2 63 ≤ bits then "-" else ""
    if magnitude = infinityBits then sign ++ style.infinity
    else sign ++ String.ofList (style.digits (shortest style.tie magnitude))

end Inset.Decimal
