import Inset.Decimal.Nearest
import Inset.Toml.Fault
import Inset.Toml.Strings

/-!
# TOML scalars without quotation marks

Words, numbers, dates and times are made of the same characters, so all that
could belong to a scalar is taken first and then told apart.  The faults of a
scalar have places within it.
-/

namespace Inset.Toml

open Data (Scalar)

/-! ## Numbers -/

/-- The characters of numbers that have been written in groups. -/
def isGrouped (c : Char) : Bool :=
  c.isDigit || c == '_'

/-- The text without its underscores. -/
def ungrouped (text : List Char) : List Char :=
  text.filter (· ≠ '_')

/-- The fault of the first underscore in the rest of a number that does not stand
between digits.  `ready` says whether a digit has just been read. -/
def strayUnderscore? (isDigit : Char → Bool) : Bool → List Char → Option Fault
  | _, [] => none
  | ready, c :: rest =>
      if c ≠ '_' then strayUnderscore? isDigit (isDigit c) rest
      else if !ready then some (.atHead .underscore (c :: rest))
      else
        match rest with
        | [] => none
        | next :: _ =>
            if next = '_' then some (.atHead .underscore rest)
            else if isDigit next then strayUnderscore? isDigit true rest
            else some (.atHead .underscore (c :: rest))

/-- The fault of the underscores of a number, if there is one.  The ends of the
number are looked at first. -/
def groupingFault? (isDigit : Char → Bool) : List Char → Option Fault
  | [] => none
  | first :: rest =>
      if first = '_' then some (.atHead .underscore (first :: rest))
      else if rest.getLast? = some '_' then some (.atAll .underscore ['_'])
      else strayUnderscore? isDigit (isDigit first) rest

/-- A number whose underscores have been looked at. -/
def grouped (isDigit : Char → Bool) (text : List Char) (value : Scalar) : Except Fault Scalar :=
  match groupingFault? isDigit text with
  | some fault => .error fault
  | none => .ok value

/-- The number that digits spell in a base. -/
def numberOf (base : Nat) (digits : List Char) : Nat :=
  digits.foldl (fun value c => base * value + (Text.hexValue? c).getD 0) 0

/-- An integer, if some integer type holds it. -/
def integerScalar (value : Int) : Scalar :=
  if -Int.pow 2 127 ≤ value ∧ value < Int.pow 2 128 then .integer value else .hugeInteger

/-- Whether a character is a digit of an integer in any base. -/
def isIntegerDigit (c : Char) : Bool :=
  (Text.hexValue? c).isSome

/-- The fault of the first character that is no digit of the base. -/
def strayDigit? (base : Nat) : List Char → Option Fault
  | [] => none
  | c :: rest =>
      if c = '_' ∨ (Text.hexValue? c).any (· < base) then strayDigit? base rest
      else some ⟨.notDigit base, ⟨rest.length + 1, rest.length + 1⟩⟩

/-- An integer in a base other than ten, after its mark.  Without digits it has
no value. -/
def basedInteger (base : Nat) (text : List Char) : Except Fault Scalar :=
  match strayDigit? base text with
  | some fault => .error fault
  | none =>
      grouped isIntegerDigit text
        (if text.isEmpty then .hugeInteger else integerScalar (numberOf base (ungrouped text)))

/-- The sign that a text begins with, if there is one. -/
def splitSign : List Char → Bool × List Char
  | '+' :: rest => (false, rest)
  | '-' :: rest => (true, rest)
  | text => (false, text)

/-- The double `digits * 10 ^ exponent`.  Far beyond the range of doubles the
power is not computed. -/
def realScalar (negative : Bool) (digits : List Char) (exponent : Int) : Scalar :=
  let significand := numberOf 10 digits
  let size : Int := digits.length + exponent
  if significand = 0 ∨ size < -400 then .real (if negative then -0.0 else 0.0)
  else if 400 < size ∧ 400 < (significand.log2 : Int) * 3 / 10 + exponent then .hugeReal
  else
    let value := Decimal.nearestTen significand exponent
    if value.isInf then .hugeReal else .real (if negative then -value else value)

/-- The integer of a decimal text: a sign if there is one, and the text after it,
which has no zero in front.  A text of other characters than digits has no
value. -/
def decimalInteger (text : List Char) : Except Fault Scalar :=
  let (negative, unsigned) := splitSign text
  match unsigned with
  | '0' :: _ :: _ => .error (Fault.atHead .leadingZero unsigned)
  | _ =>
      let digits := ungrouped unsigned
      let size : Int := numberOf 10 digits
      grouped isIntegerDigit text
        (if digits.all Char.isDigit then integerScalar (if negative then -size else size)
        else .hugeInteger)

/-- Read the digits of a part of a real number. -/
def partDigits (part : NumberPart) (text : List Char) : Except Fault (List Char × List Char) :=
  let run := ungrouped (text.takeWhile isGrouped)
  if run.isEmpty then .error ⟨.noDigits part, ⟨text.length, text.length⟩⟩
  else .ok (run, text.dropWhile isGrouped)

/-- Read the digits before the point, which have no zero in front. -/
def mantissa (text : List Char) : Except Fault (List Char × List Char) :=
  match text, partDigits .mantissa text with
  | '0' :: _, .ok (_ :: _ :: _, _) => .error (Fault.atHead .leadingZero text)
  | _, outcome => outcome

/-- Read a point and the digits after it, if there is one. -/
def fraction : List Char → Except Fault (List Char × List Char)
  | '.' :: text => partDigits .fraction text
  | text => .ok ([], text)

/-- Read an exponent with its mark, if there is one. -/
def exponent (text : List Char) : Except Fault (Int × List Char) :=
  match text with
  | [] => .ok (0, [])
  | mark :: rest =>
      if mark ≠ 'e' ∧ mark ≠ 'E' then .ok (0, text)
      else
        let (negative, unsigned) := splitSign rest
        (partDigits .exponent unsigned).map fun (run, rest) =>
          let size : Int := numberOf 10 run
          (if negative then -size else size, rest)

/-- A real number: a sign if there is one, digits, and a fraction, an exponent or
both. -/
def real (text : List Char) : Except Fault Scalar := do
  let (negative, unsigned) := splitSign text
  let (whole, rest) ← mantissa unsigned
  let (part, rest) ← fraction rest
  let (power, rest) ← exponent rest
  if rest.isEmpty then
    grouped Char.isDigit text (realScalar negative (whole ++ part) (power - part.length))
  else .error (Fault.atAll .surplus rest)

/-- A number that has no base of its own, of any kind. -/
def decimal (text : List Char) : Except Fault Scalar :=
  let unsigned := (splitSign text).2
  let rest := unsigned.dropWhile Char.isDigit
  if !unsigned.head?.any (fun c => isGrouped c || c == '.') || rest.contains ' ' then
    .error (Fault.atAll .unquoted text)
  else if rest.any (fun c => c == '.' || c == 'e' || c == 'E') then real text
  else if rest.isEmpty || rest.head? == some '_' then decimalInteger text
  else .error (Fault.atAll .unquoted text)

/-- A number. -/
def number (text : List Char) : Except Fault Scalar :=
  match text with
  | '0' :: 'x' :: digits => basedInteger 16 digits
  | '0' :: 'o' :: digits => basedInteger 8 digits
  | '0' :: 'b' :: digits => basedInteger 2 digits
  | _ => decimal text

/-! ## Dates and times -/

/-- The number that exactly so many decimal digits spell, and what is left. -/
def fixedDigits (count : Nat) (text : List Char) : Option (Nat × List Char) :=
  let digits := text.take count
  if digits.length = count ∧ digits.all Char.isDigit then
    some (numberOf 10 digits, text.drop count)
  else none

/-- The number of days of a month. -/
def daysIn (year month : Nat) : Nat :=
  if month = 2 then
    if year % 4 = 0 ∧ (year % 100 ≠ 0 ∨ year % 400 = 0) then 29 else 28
  else if month = 4 ∨ month = 6 ∨ month = 9 ∨ month = 11 then 30
  else 31

/-- What is left after a date. -/
def date (text : List Char) : Option (List Char) :=
  match fixedDigits 4 text with
  | some (year, '-' :: rest) =>
      match fixedDigits 2 rest with
      | some (month, '-' :: rest) =>
          match fixedDigits 2 rest with
          | some (day, rest) =>
              if 1 ≤ month ∧ month ≤ 12 ∧ 1 ≤ day ∧ day ≤ daysIn year month then some rest
              else none
          | none => none
      | _ => none
  | _ => none

/-- What is left after the hours and minutes of a time or an offset. -/
def hoursAndMinutes (text : List Char) : Option (List Char) :=
  match fixedDigits 2 text with
  | some (hour, ':' :: rest) =>
      match fixedDigits 2 rest with
      | some (minute, rest) => if hour ≤ 23 ∧ minute ≤ 59 then some rest else none
      | none => none
  | _ => none

/-- What is left after a fraction of a second, if there is one. -/
def secondFraction : List Char → Option (List Char)
  | '.' :: rest =>
      if (rest.takeWhile Char.isDigit).isEmpty then none
      else some (rest.dropWhile Char.isDigit)
  | text => some text

/-- What is left after a time, whose seconds may be left out. -/
def time (text : List Char) : Option (List Char) :=
  match hoursAndMinutes text with
  | some (':' :: rest) =>
      match fixedDigits 2 rest with
      | some (second, rest) => if second ≤ 60 then secondFraction rest else none
      | none => none
  | rest => rest

/-- What is left after an offset from universal time, if there is one. -/
def offset : List Char → Option (List Char)
  | 'Z' :: rest => some rest
  | 'z' :: rest => some rest
  | '+' :: rest => hoursAndMinutes rest
  | '-' :: rest => hoursAndMinutes rest
  | text => some text

/-- Whether a text is a date, a time, or a date with a time and perhaps an
offset. -/
def isDate (text : List Char) : Bool :=
  match date text with
  | some [] => true
  | some (separator :: rest) =>
      (separator == 'T' || separator == 't' || separator == ' ') &&
        ((time rest).bind offset) == some []
  | none => time text == some []

/-- Whether a text is digits followed by what only follows digits in dates and
times. -/
def looksLikeDate (text : List Char) : Bool :=
  match (splitSign text).2.dropWhile Char.isDigit with
  | c :: rest => (c == '-' || c == ':') && (splitSign text).2 != c :: rest
  | [] => false

/-! ## Scalars -/

/-- The scalar that a text spells. -/
def scalarOf (text : List Char) : Except Fault Scalar :=
  if text = ['t', 'r', 'u', 'e'] then .ok (.boolean true)
  else if text = ['f', 'a', 'l', 's', 'e'] then .ok (.boolean false)
  else
    let (negative, unsigned) := splitSign text
    if unsigned = ['i', 'n', 'f'] then
      .ok (.real (if negative then -(1.0 / 0.0) else 1.0 / 0.0))
    else if unsigned = ['n', 'a', 'n'] then .ok (.real (0.0 / 0.0))
    else if looksLikeDate text then
      if isDate text then .ok .date else .error (Fault.atAll .notDate text)
    else number text

/-- The characters that end a scalar. -/
def endsScalar (c : Char) : Bool :=
  c == ',' || c == '=' || c == '#' || c == '[' || c == ']' || c == '\x7b' || c == '\x7d' ||
    c == '\r' || c == '\n'

/-- The length of the scalar that a text begins with, when `taken` characters of it
and `gap` characters of space have been passed.  Space belongs to a scalar if
more of it follows; after space a quotation mark begins something else. -/
def scalarLength (taken gap : Nat) : List Char → Nat
  | [] => taken
  | c :: rest =>
      if isSpace c then scalarLength taken (gap + 1) rest
      else if endsScalar c || (gap != 0 && (c == '"' || c == '\'')) then taken
      else scalarLength (taken + gap + 1) 0 rest

/-- Read a scalar. -/
def scalar (text : List Char) : Except Fault (Scalar × List Char) :=
  let size := scalarLength 0 0 text
  let rest := text.drop size
  match scalarOf (text.take size) with
  | .ok value => .ok (value, rest)
  | .error fault => .error (fault.followedBy rest.length)

end Inset.Toml
