import Inset.Data.Node

/-!
# Why a text is not TOML

A fault is a complaint about a piece of the text.  The faults of numbers are
told apart, all others of the grammar are not.
-/

namespace Inset.Toml

open Data (Span)

/-- The parts of a real number. -/
inductive NumberPart
  | mantissa
  | fraction
  | exponent
  deriving DecidableEq

/-- What is wrong with a piece of a text. -/
inductive Complaint
  /-- Nothing of the grammar may stand here. -/
  | unexpected
  /-- A word that is no value. -/
  | unquoted
  /-- Digits that are no date and no time. -/
  | notDate
  /-- A character that is no digit of the base. -/
  | notDigit (base : Nat)
  | noDigits (part : NumberPart)
  | leadingZero
  /-- Characters after the end of a real number. -/
  | surplus
  /-- An underscore that does not stand between digits. -/
  | underscore
  /-- Keys and headers do not fit together. -/
  | conflict
  deriving DecidableEq

/-- A complaint and the place of what it is about. -/
structure Fault where
  complaint : Complaint
  place : Span
  deriving DecidableEq

/-- The name of a part of a number. -/
def NumberPart.name : NumberPart → String
  | mantissa => "mantissa"
  | fraction => "fraction"
  | exponent => "exponent"

/-- The name of a base. -/
def baseName (base : Nat) : String :=
  if base = 16 then "hexadecimal" else if base = 8 then "octal" else "binary"

/-- The wording of a complaint. -/
def Complaint.message : Complaint → String
  | unexpected => "unexpected text"
  | unquoted => "string values must be quoted, expected literal string"
  | notDate => "invalid datetime"
  | notDigit base => "invalid " ++ baseName base ++ " number"
  | noDigits part => "invalid " ++ part.name ++ ", expected digits"
  | leadingZero => "unexpected leading zero, expected nothing"
  | surplus => "invalid float, expected nothing"
  | underscore => "`_` may only go between digits, expected nothing"
  | conflict => "duplicate key"

/-- A fault at the first character of what is left of a text. -/
def Fault.atHead (complaint : Complaint) (text : List Char) : Fault :=
  ⟨complaint, ⟨text.length, text.length - 1⟩⟩

/-- A fault that is all that is left of a text. -/
def Fault.atAll (complaint : Complaint) (text : List Char) : Fault :=
  ⟨complaint, ⟨text.length, 0⟩⟩

/-- The fault of a piece of a text, as one of the text in which so many characters
follow the piece. -/
def Fault.followedBy (fault : Fault) (count : Nat) : Fault :=
  ⟨fault.complaint, ⟨fault.place.start + count, fault.place.stop + count⟩⟩

end Inset.Toml
