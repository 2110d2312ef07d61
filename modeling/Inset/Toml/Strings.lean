import Inset.Text.Hex

/-!
# TOML strings

There are four kinds of strings: basic strings with escapes, literal strings
without, and either of them over several lines.  Every reader takes the text
after the opening quotation marks and gives the characters of the string and
what is left after the closing ones.
-/

namespace Inset.Toml

/-- Space within a line. -/
def isSpace (c : Char) : Bool :=
  c == ' ' || c == '\t'

/-- The characters that may stand in strings and comments: all but the control
characters, of which only the tab is left. -/
def isPlain (c : Char) : Bool :=
  c == '\t' || (0x20 ≤ c.toNat && c.toNat != 0x7f)

/-- The length of the line break that a text begins with, if there is one. -/
def lineBreak? : List Char → Option Nat
  | '\n' :: _ => some 1
  | '\r' :: '\n' :: _ => some 2
  | _ => none

/-- Drop the line break that a text begins with. -/
def dropLineBreak (text : List Char) : List Char :=
  text.drop ((lineBreak? text).getD 0)

/-- The character whose code is spelled by the first digits of a text. -/
def codedChar (count : Nat) (text : List Char) : Option Char :=
  let digits := text.take count
  if digits.length = count then
    match Text.hexNumber? digits with
    | some code => if code.isValidChar then some (Char.ofNat code) else none
    | none => none
  else none

/-- The character after a backslash, and how many characters spell it. -/
def unescape : List Char → Option (Char × Nat)
  | [] => none
  | c :: rest =>
      if c = 'b' then some ('\x08', 1)
      else if c = 't' then some ('\t', 1)
      else if c = 'n' then some ('\n', 1)
      else if c = 'f' then some ('\x0c', 1)
      else if c = 'r' then some ('\r', 1)
      else if c = 'e' then some ('\x1b', 1)
      else if c = '"' then some ('"', 1)
      else if c = '\\' then some ('\\', 1)
      else if c = 'x' then (codedChar 2 rest).map (·, 3)
      else if c = 'u' then (codedChar 4 rest).map (·, 5)
      else if c = 'U' then (codedChar 8 rest).map (·, 9)
      else none

/-- The characters of a string and what is left after it. -/
abbrev Body := List Char × List Char

/-- Put characters in front of a string. -/
def Body.push (c : Char) (body : Body) : Body :=
  (c :: body.1, body.2)

/-- A basic string.  The first `skip` characters belong to an escape that has
been read. -/
def basicBody : Nat → List Char → Option Body
  | _, [] => none
  | skip + 1, _ :: rest => basicBody skip rest
  | 0, c :: rest =>
      if c = '"' then some ([], rest)
      else if c = '\\' then
        match unescape rest with
        | some (decoded, size) => (basicBody size rest).map (Body.push decoded)
        | none => none
      else if isPlain c then (basicBody 0 rest).map (Body.push c)
      else none

/-- A literal string. -/
def literalBody : List Char → Option Body
  | [] => none
  | c :: rest =>
      if c = '\'' then some ([], rest)
      else if isPlain c then (literalBody rest).map (Body.push c)
      else none

/-! ## Strings over several lines -/

/-- The number of blanks and line breaks that a text begins with. -/
def blankCount : List Char → Nat
  | [] => 0
  | '\r' :: '\n' :: rest => blankCount rest + 2
  | c :: rest => if isSpace c || c == '\n' then blankCount rest + 1 else 0

/-- The length of what a backslash at the end of a line leaves out: the rest of
the line if it is blank, and all blank lines and margins after it. -/
def continuation? (text : List Char) : Option Nat :=
  let line := text.takeWhile isSpace
  let rest := text.drop line.length
  (lineBreak? rest).map fun _ => line.length + blankCount rest

/-- The end of a string at a run of quotation marks: three of them close it, and
up to two more before them belong to it. -/
def closeRun (mark : Char) (text : List Char) : Option Body :=
  let count := (text.takeWhile (· == mark)).length
  if count ≤ 5 then some (List.replicate (count - 3) mark, text.drop count) else none

/-- Whether a text begins with three quotation marks. -/
def closesAt (mark : Char) : List Char → Bool
  | a :: b :: c :: _ => a == mark && b == mark && c == mark
  | _ => false

/-- A basic string over several lines.  The first `skip` characters belong to an
escape that has been read. -/
def basicLines : Nat → List Char → Option Body
  | _, [] => none
  | skip + 1, _ :: rest => basicLines skip rest
  | 0, c :: rest =>
      if c = '"' then
        if closesAt '"' (c :: rest) then closeRun '"' (c :: rest)
        else (basicLines 0 rest).map (Body.push c)
      else if c = '\\' then
        match continuation? rest with
        | some size => basicLines size rest
        | none =>
            match unescape rest with
            | some (decoded, size) => (basicLines size rest).map (Body.push decoded)
            | none => none
      else if isPlain c || c == '\n' || (c == '\r' && rest.head? == some '\n') then
        (basicLines 0 rest).map (Body.push c)
      else none

/-- A literal string over several lines. -/
def literalLines : List Char → Option Body
  | [] => none
  | c :: rest =>
      if c = '\'' then
        if closesAt '\'' (c :: rest) then closeRun '\'' (c :: rest)
        else (literalLines rest).map (Body.push c)
      else if isPlain c || c == '\n' || (c == '\r' && rest.head? == some '\n') then
        (literalLines rest).map (Body.push c)
      else none

/-- A string on one line, of either kind, with its quotation marks. -/
def lineString : List Char → Option Body
  | '"' :: rest => basicBody 0 rest
  | '\'' :: rest => literalBody rest
  | _ => none

/-- A string of any kind with its quotation marks.  A line break right after
three quotation marks is left out. -/
def anyString : List Char → Option Body
  | '"' :: '"' :: '"' :: rest => basicLines 0 (dropLineBreak rest)
  | '\'' :: '\'' :: '\'' :: rest => literalLines (dropLineBreak rest)
  | text => lineString text

end Inset.Toml
