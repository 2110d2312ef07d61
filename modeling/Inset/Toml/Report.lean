import Inset.Toml.Fault

/-!
# Reports about a text

What is wrong with a text or with the data in it is reported with the line where
it stands and a mark under its place.
Lines end at line feeds only.  Columns are counted in characters, the length of
the mark in bytes, and the mark does not go beyond the line.
-/

namespace Inset.Toml

open Data (Misfit Span)

/-- The number of bytes of a text. -/
def byteCount (text : List Char) : Nat :=
  text.foldl (fun size c => size + c.utf8Size) 0

/-- Where a place lies in a text. -/
structure Position where
  /-- The number of the line, from one. -/
  line : Nat
  /-- The number of characters of the line before the place. -/
  column : Nat
  /-- The characters of the line. -/
  content : List Char
  deriving DecidableEq

/-- The position of a place in a text. -/
def Position.ofSpan (text : List Char) (place : Span) : Position :=
  let before := text.take (text.length - place.start)
  let ahead := text.drop (text.length - place.start)
  let opened := (before.reverse.takeWhile (· ≠ '\n')).reverse
  { line := before.count '\n' + 1
    column := opened.length
    content := opened ++ ahead.takeWhile (· ≠ '\n') }

/-- The characters of a place in a text. -/
def marked (text : List Char) (place : Span) : List Char :=
  (text.drop (text.length - place.start)).take (place.start - place.stop)

/-- A message with the line that it is about and a mark under the place. -/
def report (text : List Char) (place : Span) (message : String) : String :=
  let position := Position.ofSpan text place
  let number := toString position.line
  let gutter := "".pushn ' ' (number.length + 1) ++ "|"
  let mark := max 1
    (min (byteCount (marked text place)) (byteCount position.content - position.column))
  "TOML parse error at line " ++ number ++ ", column " ++ toString (position.column + 1) ++ "\n" ++
    gutter ++ "\n" ++
    number ++ " | " ++ String.ofList position.content ++ "\n" ++
    gutter ++ " " ++ "".pushn ' ' position.column ++ "".pushn '^' mark ++ "\n" ++
    message ++ "\n"

/-- The report of a fault of a text. -/
def faultReport (text : List Char) (fault : Fault) : String :=
  report text fault.place fault.complaint.message

/-- The report of a misfit in a text. -/
def misfitReport (text : List Char) (misfit : Misfit) : String :=
  match misfit.place with
  | none => misfit.mismatch.message ++ "\n"
  | some place => report text place misfit.mismatch.message

end Inset.Toml
