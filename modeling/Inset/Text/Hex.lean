/-!
# Hexadecimal digits

Codes are written with lower-case digits; both cases are read.  By
`hexNumber?_byte` a byte that is written with four digits reads back.
-/

namespace Inset.Text

/-- The digit of a value below sixteen, in lower case. -/
def hexDigit (value : Nat) : Char :=
  if value < 10 then Char.ofNat (0x30 + value) else Char.ofNat (0x57 + value)

/-- The value of a hexadecimal digit of either case. -/
def hexValue? (c : Char) : Option Nat :=
  if '0' ≤ c ∧ c ≤ '9' then some (c.toNat - 0x30)
  else if 'a' ≤ c ∧ c ≤ 'f' then some (c.toNat - 0x57)
  else if 'A' ≤ c ∧ c ≤ 'F' then some (c.toNat - 0x37)
  else none

theorem hexValue?_hexDigit : ∀ value < 16, hexValue? (hexDigit value) = some value := by
  decide

/-- The value of a run of hexadecimal digits, read from the most significant
one. -/
def hexNumber? (digits : List Char) : Option Nat :=
  digits.foldlM (fun value c => (hexValue? c).map (16 * value + ·)) 0

/-- The digits of a number without leading zeros, except that zero is `0`. -/
def hexDigits (value : Nat) : List Char :=
  if value < 16 then [hexDigit value]
  else hexDigits (value / 16) ++ [hexDigit (value % 16)]

/-- Two zeros and the two digits of a byte spell it. -/
theorem hexNumber?_byte {value : Nat} (small : value < 0x100) :
    hexNumber? ['0', '0', hexDigit (value / 16), hexDigit (value % 16)] = some value := by
  have zero : hexValue? '0' = some 0 := by decide
  have high := hexValue?_hexDigit (value / 16) (by omega)
  have low := hexValue?_hexDigit (value % 16) (by omega)
  simp [hexNumber?, zero, high, low, Nat.div_add_mod]

end Inset.Text
