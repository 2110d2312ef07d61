import Inset.Data.Node

/-!
# The syntax of TOML documents

A document is a list of assignments, then sections with a header and
assignments of their own.  The places of keys, values and headers are kept,
since errors in the data are reported at them.
-/

namespace Inset.Toml

open Data (Scalar Span)

/-- A key as it is written, without its quotation marks. -/
structure Key where
  name : String
  place : Span
  deriving DecidableEq, Inhabited

/-- A value as it is written. -/
inductive Value
  | scalar (value : Scalar) (place : Span)
  | array (items : List Value) (place : Span)
  /-- A table in braces. -/
  | inlineTable (assignments : List (List Key × Value)) (place : Span)
  deriving Inhabited

/-- A value assigned to a dotted key. -/
abbrev Assignment := List Key × Value

/-- The header of a section; it names a table or a new element of an array of
tables. -/
structure Header where
  isElement : Bool
  path : List Key
  place : Span
  deriving DecidableEq, Inhabited

/-- A header and the assignments below it. -/
structure Section where
  header : Header
  assignments : List Assignment
  deriving Inhabited

/-- A document: the assignments above the first header, and the sections. -/
structure Document where
  preamble : List Assignment
  sections : List Section
  deriving Inhabited

end Inset.Toml
