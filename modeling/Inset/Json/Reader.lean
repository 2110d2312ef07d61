import Inset.Json.Draft
import Inset.Decimal.Nearest
import Inset.Text.Hex

/-!
# Reading JSON text

The reader turns a text into a draft.  It never fails: a text that stops being
JSON becomes a draft with a fault at that place.  Every reader below takes the
characters that are left and says what is left after it, or that nothing is
left to read because of a fault.
-/

namespace Inset.Json.Reader

/-- The white space of JSON. -/
def isBlank (c : Char) : Bool :=
  c == ' ' || c == '\t' || c == '\n' || c == '\r'

/-- The text after leading white space. -/
def skipBlanks (text : List Char) : List Char :=
  text.dropWhile isBlank

/-! ## Strings -/

/-- The value of four hexadecimal digits.  Fewer than four bytes before the
end are a text that ends too early. -/
def hexUnit (text : List Char) : Except Fault Nat :=
  if (text.take 4).foldl (fun size c => size + c.utf8Size) 0 < 4 then .error .unfinished
  else
    match text.take 4 with
    | [a, b, c, d] =>
        match Text.hexNumber? [a, b, c, d] with
        | some unit => .ok unit
        | none => .error .malformed
    | _ => .error .malformed

/-- The character after `\u`, and how many characters spell it.  A character
above `U+FFFF` is spelled by a high and a low surrogate, and neither of them
stands alone. -/
def unicodeEscape (text : List Char) : Except Fault (Char × Nat) :=
  match hexUnit text with
  | .error fault => .error fault
  | .ok unit =>
      if unit < 0xd800 ∨ 0xdfff < unit then .ok (Char.ofNat unit, 4)
      else if 0xdc00 ≤ unit then .error .malformed
      else
        match text.drop 4 with
        | [] => .error .unfinished
        | ['\\'] => .error .unfinished
        | '\\' :: 'u' :: rest =>
            match hexUnit rest with
            | .error fault => .error fault
            | .ok low =>
                if 0xdc00 ≤ low ∧ low ≤ 0xdfff then
                  .ok (Char.ofNat (0x10000 + (unit - 0xd800) * 0x400 + (low - 0xdc00)), 10)
                else .error .malformed
        | _ => .error .malformed

/-- The character after a backslash, and how many characters spell it. -/
def unescape : List Char → Except Fault (Char × Nat)
  | [] => .error .unfinished
  | c :: rest =>
      if c = '"' then .ok ('"', 1)
      else if c = '\\' then .ok ('\\', 1)
      else if c = '/' then .ok ('/', 1)
      else if c = 'b' then .ok ('\x08', 1)
      else if c = 'f' then .ok ('\x0c', 1)
      else if c = 'n' then .ok ('\n', 1)
      else if c = 'r' then .ok ('\r', 1)
      else if c = 't' then .ok ('\t', 1)
      else if c = 'u' then (unicodeEscape rest).map fun (c, size) => (c, size + 1)
      else .error .malformed

/-- The characters of a string up to its closing quotation mark, and what is
left after that.  The first `skip` characters have been read as part of an
escape. -/
def stringBody : Nat → List Char → Except Fault (List Char × List Char)
  | _, [] => .error .unfinished
  | skip + 1, _ :: rest => stringBody skip rest
  | 0, c :: rest =>
      if c = '"' then .ok ([], rest)
      else if c = '\\' then
        match unescape rest with
        | .error fault => .error fault
        | .ok (decoded, size) =>
            (stringBody size rest).map fun (body, rest) => (decoded :: body, rest)
      else if c.toNat < 0x20 then .error .malformed
      else (stringBody 0 rest).map fun (body, rest) => (c :: body, rest)

/-! ## Numbers -/

/-- The largest significand that is kept exactly. -/
def largestSignificand : Nat := Nat.pow 2 64 - 1

/-- The largest exponent that is kept exactly. -/
def largestExponent : Nat := Nat.pow 2 31 - 1

/-- The spelling of a number: its sign, the digits before the point, the digits
after it, and the exponent with its sign. -/
structure Numeral where
  negative : Bool
  whole : List Nat
  fraction : Option (List Nat)
  exponent : Option (Bool × List Nat)
  deriving DecidableEq

/-- A fault where a digit is due. -/
def digitDue : List Char → Fault
  | [] => .unfinished
  | _ :: _ => .malformed

/-- The digits that a text begins with, and what is left. -/
def digits (text : List Char) : List Nat × List Char :=
  ((text.takeWhile Char.isDigit).map fun c => c.toNat - 0x30,
    text.dropWhile Char.isDigit)

/-- Read the exponent of a number, if it has one. -/
def exponent (text : List Char) : Except Fault (Option (Bool × List Nat) × List Char) :=
  match text with
  | [] => .ok (none, [])
  | c :: rest =>
      if c = 'e' ∨ c = 'E' then
        let (negative, rest) : Bool × List Char := match rest with
          | '+' :: rest => (false, rest)
          | '-' :: rest => (true, rest)
          | rest => (false, rest)
        match digits rest with
        | ([], rest) => .error (digitDue rest)
        | (ds, rest) => .ok (some (negative, ds), rest)
      else .ok (none, text)

/-- Read the spelling of a number after its sign. -/
def unsignedNumeral (negative : Bool) (text : List Char) :
    Except Fault (Numeral × List Char) :=
  match digits text with
  | ([], rest) => .error (digitDue rest)
  | (0 :: _ :: _, _) => .error .malformed
  | (whole, rest) =>
      match rest with
      | '.' :: rest =>
          match digits rest with
          | ([], rest) => .error (digitDue rest)
          | (fraction, rest) =>
              (exponent rest).map fun (exponent, rest) =>
                (⟨negative, whole, some fraction, exponent⟩, rest)
      | rest =>
          (exponent rest).map fun (exponent, rest) =>
            (⟨negative, whole, none, exponent⟩, rest)

/-- Read the spelling of a number. -/
def numeral : List Char → Except Fault (Numeral × List Char)
  | '-' :: rest => unsignedNumeral true rest
  | text => unsignedNumeral false text

/-- The number that a digit list spells after the digits of `start`. -/
def natOfDigits (start : Nat) (ds : List Nat) : Nat :=
  ds.foldl (fun value digit => 10 * value + digit) start

/-- Append digits to a significand while it stays below the largest one.  The
result also counts the digits that no longer fit. -/
def appendDigits (significand : Nat) : List Nat → Nat × Nat
  | [] => (significand, 0)
  | digit :: rest =>
      if largestSignificand < 10 * significand + digit then (significand, rest.length + 1)
      else appendDigits (10 * significand + digit) rest

/-- The powers of ten that are doubles. -/
def powerOfTen (exponent : Nat) : Float :=
  Decimal.nearest (Nat.pow 10 exponent) 1

/-- `value * 10 ^ exponent` in double arithmetic, one factor at a time; `none`
if it is too large. -/
def scale (value : Float) (exponent : Int) : Nat → Option Float
  | 0 => some value
  | steps + 1 =>
      if exponent.natAbs ≤ 308 then
        let power := powerOfTen exponent.natAbs
        if 0 ≤ exponent then
          let product := value * power
          if product.isInf then none else some product
        else some (value / power)
      else if value == 0.0 then some value
      else if 0 ≤ exponent then none
      else scale (value / powerOfTen 308) (exponent + 308) steps

/-- The double with the given significand and exponent of ten.  After two
divisions by `1e308` every significand is zero. -/
def realOf (negative : Bool) (significand : Nat) (exponent : Int) : Option Float :=
  (scale (Decimal.nearest significand 1) exponent 4).map fun value =>
    if negative then -value else value

/-- The value of a spelling that has a point, an exponent or too many digits. -/
def Numeral.real? (numeral : Numeral) : Option Float :=
  let (kept, dropped) := appendDigits 0 numeral.whole
  let fraction := numeral.fraction.getD []
  let (significand, ignored) := appendDigits kept fraction
  let places : Int := dropped - (fraction.length - ignored : Nat)
  match numeral.exponent with
  | none => realOf numeral.negative significand places
  | some (negative, ds) =>
      let size := natOfDigits 0 ds
      if largestExponent < size then
        if significand ≠ 0 ∧ !negative then none
        else some (if numeral.negative then -0.0 else 0.0)
      else realOf numeral.negative significand (if negative then places - size else places + size)

/-- The value of a spelling: an integer if it has neither point nor exponent
and fits 64 bits, else a double; `none` if it is too large for a double.  A
negative zero is a double. -/
def Numeral.value? (numeral : Numeral) : Option Number :=
  let size := natOfDigits 0 numeral.whole
  if numeral.fraction = none ∧ numeral.exponent = none ∧ size ≤ largestSignificand then
    if !numeral.negative then some (.integer size)
    else if 0 < size ∧ size ≤ Nat.pow 2 63 then some (.integer (-size))
    else some (.real (-(Decimal.nearest size 1)))
  else numeral.real?.map .real

/-- Read a number. -/
def number (text : List Char) : Except Fault (Number × List Char) :=
  match numeral text with
  | .error fault => .error fault
  | .ok (spelling, rest) =>
      match spelling.value? with
      | some value => .ok (value, rest)
      | none => .error .malformed

/-! ## Values -/

/-- Read the rest of a word. -/
def word : List Char → List Char → Except Fault (List Char)
  | [], text => .ok text
  | _ :: _, [] => .error .unfinished
  | expected :: word', c :: rest =>
      if c = expected then word word' rest else .error .malformed

/-- A draft with what is left after it, unless a fault ended the reading. -/
abbrev Reading (α : Type) := α × Option (List Char)

/-- The reading of something that holds no drafts. -/
def Reading.ofExcept {α : Type} (draft : α → Draft) :
    Except Fault (α × List Char) → Reading Draft
  | .ok (value, rest) => (draft value, some rest)
  | .error fault => (.broken fault, none)

/-- The fault of a place where a comma or a closing bracket is due. -/
def separatorDue : List Char → Fault
  | [] => .unfinished
  | _ :: _ => .malformed

mutual

/-- Read a value.  The first argument bounds the depth of the recursion; two
for every character are enough. -/
def value : Nat → List Char → Reading Draft
  | 0, _ => (.broken .malformed, none)
  | fuel + 1, text =>
      match skipBlanks text with
      | [] => (.broken .unfinished, none)
      | c :: rest =>
          if c = '[' then
            match skipBlanks rest with
            | [] => (.array [] (some .unfinished), none)
            | ']' :: rest => (.array [] none, some rest)
            | _ :: _ =>
                let (elements, fault, after) := items fuel rest
                (.array elements fault, after)
          else if c = '\x7b' then
            match skipBlanks rest with
            | [] => (.object [] (some .unfinished), none)
            | '\x7d' :: rest => (.object [] none, some rest)
            | _ :: _ =>
                let (entries, fault, after) := members fuel rest
                (.object entries fault, after)
          else if c = '"' then
            Reading.ofExcept (fun body => .string (String.ofList body)) (stringBody 0 rest)
          else if c = 'n' then
            Reading.ofExcept (fun _ => .null)
              ((word ['u', 'l', 'l'] rest).map fun rest => ((), rest))
          else if c = 't' then
            Reading.ofExcept (fun _ => .boolean true)
              ((word ['r', 'u', 'e'] rest).map fun rest => ((), rest))
          else if c = 'f' then
            Reading.ofExcept (fun _ => .boolean false)
              ((word ['a', 'l', 's', 'e'] rest).map fun rest => ((), rest))
          else if c = '-' ∨ c.isDigit then
            Reading.ofExcept .number (number (c :: rest))
          else (.broken .malformed, none)

/-- Read the items of an array that is not empty, and its closing bracket. -/
def items : Nat → List Char → List Draft × Reading (Option Fault)
  | 0, _ => ([], some .malformed, none)
  | fuel + 1, text =>
      match value fuel text with
      | (item, none) => ([item], none, none)
      | (item, some rest) =>
          match skipBlanks rest with
          | ',' :: rest =>
              let (elements, fault, after) := items fuel rest
              (item :: elements, fault, after)
          | ']' :: rest => ([item], none, some rest)
          | rest => ([item], some (separatorDue rest), none)

/-- Read the members of an object that is not empty, and its closing brace. -/
def members : Nat → List Char → List (String × Draft) × Reading (Option Fault)
  | 0, _ => ([], some .malformed, none)
  | fuel + 1, text =>
      match skipBlanks text with
      | '"' :: rest =>
          match stringBody 0 rest with
          | .error fault => ([], some fault, none)
          | .ok (body, rest) =>
              let key := String.ofList body
              match skipBlanks rest with
              | ':' :: rest =>
                  match value fuel rest with
                  | (draft, none) => ([(key, draft)], none, none)
                  | (draft, some rest) =>
                      match skipBlanks rest with
                      | ',' :: rest =>
                          let (entries, fault, after) := members fuel rest
                          ((key, draft) :: entries, fault, after)
                      | '\x7d' :: rest => ([(key, draft)], none, some rest)
                      | rest => ([(key, draft)], some (separatorDue rest), none)
              | rest => ([(key, .broken (separatorDue rest))], none, none)
      | rest => ([], some (separatorDue rest), none)

end

end Inset.Json.Reader

namespace Inset.Json

/-- A text as a draft, and the fault of what follows the value, if any. -/
def read (text : List Char) : Draft × Option Fault :=
  match Reader.value (2 * text.length + 2) text with
  | (draft, none) => (draft, none)
  | (draft, some rest) =>
      match Reader.skipBlanks rest with
      | [] => (draft, none)
      | _ :: _ => (draft, some .malformed)

/-- The value that a text spells. -/
def Value.ofText? (text : String) : Option Value :=
  match read text.toList with
  | (draft, none) => draft.value?
  | (_, some _) => none

end Inset.Json
