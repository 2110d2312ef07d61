import Inset.Pattern.Compilation
import Inset.Text.Alphanumeric
import Inset.Text.Blank
import Inset.Text.Hex

/-!
# Reading patterns

Every reader takes the text that is left and gives what it has read and what is
left after it, or nothing if there is no pattern there.  `spaced` says whether
space and comments are left out.
-/

namespace Inset.Pattern

/-! ## Space and comments -/

/-- The text after space and comments; a comment runs to the end of its line. -/
def dropSpace (inComment : Bool) : List Char → List Char
  | [] => []
  | c :: rest =>
      if inComment then dropSpace (c ≠ '\n') rest
      else if Text.isBlankChar c then dropSpace false rest
      else if c = '#' then dropSpace true rest
      else c :: rest

/-- The text after what is left out. -/
def skip (spaced : Bool) (text : List Char) : List Char :=
  if spaced then dropSpace false text else text

/-- The first character that is neither space nor the mark of a comment.  The
characters of a comment count. -/
def visible? (inComment : Bool) : List Char → Option Char
  | [] => none
  | c :: rest =>
      if Text.isBlankChar c then visible? inComment rest
      else if c = '#' ∧ !inComment then visible? true rest
      else some c

/-- The character that is taken to come next when the one after a minus sign
decides what the sign means. -/
def peek? (spaced : Bool) (text : List Char) : Option Char :=
  if spaced then visible? false text <|> text.head? else text.head?

/-! ## Escapes -/

/-- Read the character whose code is spelled by so many more digits, after digits
of the given value. -/
def codedChar? (spaced : Bool) : Nat → Nat → List Char → Option (Char × List Char)
  | 0, value, text => if value.isValidChar then some (Char.ofNat value, text) else none
  | count + 1, value, text =>
      match skip spaced text with
      | [] => none
      | c :: rest =>
          match Text.hexValue? c with
          | some digit => codedChar? spaced count (16 * value + digit) rest
          | none => none

/-- What a letter stands for after a backslash. -/
def ofLetter? (c : Char) : Option Pattern :=
  if c = 'd' ∨ c = 'D' then some (.lettered .digit (c = 'D'))
  else if c = 's' ∨ c = 'S' then some (.lettered .space (c = 'S'))
  else if c = 'w' ∨ c = 'W' then some (.lettered .word (c = 'W'))
  else if c = 'A' ∨ c = 'z' then some .edge
  else if c = 'b' ∨ c = 'B' then some .boundary
  else if c = 'a' then some (.character '\x07' false)
  else if c = 'f' then some (.character '\x0c' false)
  else if c = 't' then some (.character '\t' false)
  else if c = 'n' then some (.character '\n' false)
  else if c = 'r' then some (.character '\r' false)
  else if c = 'v' then some (.character '\x0b' false)
  else none

/-- Read an escape after its backslash.  Marks of ASCII stand for themselves,
except angle brackets; digits stand for nothing. -/
def escape? (spaced : Bool) : List Char → Option (Pattern × List Char)
  | [] => none
  | c :: rest =>
      if c = 'x' then
        (codedChar? spaced 2 0 rest).map fun (c, rest) => (.character c true, rest)
      else if c = 'u' then
        (codedChar? spaced 4 0 rest).map fun (c, rest) => (.character c false, rest)
      else if c = 'U' then
        (codedChar? spaced 8 0 rest).map fun (c, rest) => (.character c false, rest)
      else if c = '<' ∨ c = '>' then some (.boundary, rest)
      else if c.isAlpha then (ofLetter? c).map (·, rest)
      else if c.toNat < 0x80 ∧ !c.isDigit then some (.character c false, rest)
      else none

/-! ## Classes -/

/-- The names of the classes that are written between colons. -/
def classNames : List String :=
  ["alnum", "alpha", "ascii", "blank", "cntrl", "digit", "graph", "lower", "print", "punct",
    "space", "upper", "word", "xdigit"]

/-- Read a class by its name, from the bracket before the first colon on. -/
def namedClass? (text : List Char) : Option (CharClass × List Char) :=
  let (negated, rest) : Bool × List Char := match text with
    | '[' :: ':' :: '^' :: rest => (true, rest)
    | text => (false, text.drop 2)
  match text, rest.dropWhile (· ≠ ':') with
  | '[' :: ':' :: _, ':' :: ']' :: after =>
      if String.ofList (rest.takeWhile (· ≠ ':')) ∈ classNames then some (.named negated, after)
      else none
  | _, _ => none

/-- What an escape stands for in a class. -/
def classItem? : Pattern → Option CharClass
  | .character c _ => some (.character c)
  | .lettered letter negated => some (.lettered letter negated)
  | _ => none

/-- Read a character or an escape in a class. -/
def classPart? (spaced : Bool) : List Char → Option (CharClass × List Char)
  | [] => none
  | c :: rest =>
      if c = '\\' then
        match escape? spaced rest with
        | some (escape, rest) => (classItem? escape).map (·, rest)
        | none => none
      else some (.character c, rest)

/-- The range between two characters, the first of which is not beyond the second. -/
def range? : CharClass → CharClass → Option CharClass
  | .character first, .character last => if first ≤ last then some (.range first last) else none
  | _, _ => none

/-- Read a part of a class or a range between two of them.  A minus sign before
another one or before the closing bracket is no range. -/
def classRange? (spaced : Bool) (text : List Char) : Option (CharClass × List Char) :=
  match classPart? spaced text with
  | none => none
  | some (first, rest) =>
      match skip spaced rest with
      | '-' :: more =>
          if peek? spaced more = some ']' ∨ peek? spaced more = some '-' then
            some (first, '-' :: more)
          else
            match classPart? spaced (skip spaced more) with
            | some (last, rest) => (range? first last).map (·, rest)
            | none => none
      | rest => some (first, rest)

/-- The number of minus signs that a text begins with, and what is left. -/
def dashes (spaced inComment : Bool) (count : Nat) : List Char → Nat × List Char
  | [] => (count, [])
  | c :: rest =>
      if inComment then dashes spaced (c ≠ '\n') count rest
      else if c = '-' then dashes spaced false (count + 1) rest
      else if spaced && Text.isBlankChar c then dashes spaced false count rest
      else if spaced && c = '#' then dashes spaced true count rest
      else (count, c :: rest)

/-- Open a class after its bracket: whether it is negated, its first parts, and
what is left.  Minus signs in front stand for themselves, and so does a closing
bracket that comes first. -/
def openClass (spaced : Bool) (text : List Char) : Bool × List CharClass × List Char :=
  let (negated, text) : Bool × List Char := match skip spaced text with
    | '^' :: rest => (true, skip spaced rest)
    | text => (false, text)
  match dashes spaced false 0 text with
  | (0, ']' :: rest) => (negated, [.character ']'], rest)
  | (count, rest) => (negated, List.replicate count (.character '-'), rest)

/-- The class of what has been read up to the end of an operand: the operations so
far, and the last parts, the latest in front. -/
def operand (left : Option CharClass) (parts : List CharClass) : CharClass :=
  let right := CharClass.ofParts parts.reverse
  match left with
  | none => right
  | some left => .operation left right

/-- Read the parts of a class up to its closing bracket, after the operations and
parts so far.  The first argument bounds the number of parts. -/
def classParts? (spaced : Bool) :
    Nat → Option CharClass → List CharClass → List Char → Option (CharClass × List Char)
  | 0, _, _, _ => none
  | fuel + 1, left, parts, text =>
      match skip spaced text with
      | [] => none
      | ']' :: rest => some (operand left parts, rest)
      | '[' :: rest =>
          match namedClass? ('[' :: rest) with
          | some (named, rest) => classParts? spaced fuel left (named :: parts) rest
          | none =>
              let (negated, opening, rest) := openClass spaced rest
              match classParts? spaced fuel none opening rest with
              | some (inner, rest) =>
                  classParts? spaced fuel left (.bracket negated inner :: parts) rest
              | none => none
      | '&' :: '&' :: rest => classParts? spaced fuel (some (operand left parts)) [] rest
      | '-' :: '-' :: rest => classParts? spaced fuel (some (operand left parts)) [] rest
      | '~' :: '~' :: rest => classParts? spaced fuel (some (operand left parts)) [] rest
      | text =>
          match classRange? spaced text with
          | some (part, rest) => classParts? spaced fuel left (part :: parts) rest
          | none => none

/-- Read a class after its opening bracket. -/
def class? (spaced : Bool) (text : List Char) : Option (Pattern × List Char) :=
  let (negated, opening, rest) := openClass spaced text
  (classParts? spaced (text.length + 1) none opening rest).map fun (inner, rest) =>
    (.bracket negated inner, rest)

/-! ## Groups -/

/-- The flag that a letter stands for. -/
def Flag.ofLetter? (c : Char) : Option Flag :=
  if c = 'i' then some .ignoreCase
  else if c = 'u' then some .characters
  else if c = 'x' then some .spaced
  else if c = 'm' then some .multiLine
  else if c = 's' then some .anyLine
  else if c = 'U' then some .shortest
  else if c = 'R' then some .returns
  else none

/-- The settings of flags, where nothing stands for a minus sign. -/
def settingsOf (value : Bool) : List (Option Flag) → Settings
  | [] => []
  | none :: items => settingsOf false items
  | some flag :: items => (flag, value) :: settingsOf value items

/-- Read flags and minus signs up to a colon or a closing parenthesis.  `seen` holds
those so far, the latest in front; none comes twice, and a minus sign is not
the last. -/
def flags? (seen : List (Option Flag)) : List Char → Option (Settings × List Char)
  | [] => none
  | c :: rest =>
      if c = ':' ∨ c = ')' then
        if seen.head? = some none ∨ (c = ')' ∧ seen.isEmpty) then none
        else some (settingsOf true seen.reverse, c :: rest)
      else if c = '-' then if none ∈ seen then none else flags? (none :: seen) rest
      else
        match Flag.ofLetter? c with
        | none => none
        | some flag => if some flag ∈ seen then none else flags? (some flag :: seen) rest

/-- Whether a group may have a name. -/
def isGroupName : List Char → Bool
  | [] => false
  | c :: rest =>
      (c == '_' || Text.isAlphabetic c) &&
        rest.all fun c => c ∈ ['_', '.', '[', ']'] || Text.isAlphanumeric c

/-- How a parenthesis goes on. -/
inductive Opening
  | group (kind : GroupKind)
  /-- Flags for what is left of the group around. -/
  | flags (settings : Settings)

/-- Read a name up to an angle bracket. -/
def namedOpening? (text : List Char) : Option (Opening × List Char) :=
  let name := text.takeWhile (· ≠ '>')
  match text.dropWhile (· ≠ '>') with
  | [] => none
  | _ :: rest => if isGroupName name then some (.group (.named name), rest) else none

/-- Read what follows an opening parenthesis before the parts of a group. -/
def opening? (text : List Char) : Option (Opening × List Char) :=
  match text with
  | '?' :: 'P' :: '<' :: rest => namedOpening? rest
  | '?' :: '<' :: rest => namedOpening? rest
  | '?' :: rest =>
      match flags? [] rest with
      | some (settings, ':' :: rest) => some (.group (.plain settings), rest)
      | some (settings, _ :: rest) => some (.flags settings, rest)
      | _ => none
  | rest => some (.group .numbered, rest)

/-- Whether space is left out after flags are set. -/
def spacedAfter (spaced : Bool) (settings : Settings) : Bool :=
  ((settings.find? (·.1 = .spaced)).map Prod.snd).getD spaced

/-! ## Patterns -/

/-- The repetition that a mark stands for. -/
def Times.ofMark? (c : Char) : Option Times :=
  if c = '?' then some .atMostOnce
  else if c = '*' then some .anyTimes
  else if c = '+' then some .atLeastOnce
  else none

/-- Repeat the latest of the parts so far, which stands in front.  A question mark
right after the mark belongs to it; flags are not repeated. -/
def repeat? (times : Times) (parts : List Pattern) (rest : List Char) :
    Option (List Pattern × List Char) :=
  match parts with
  | [] => none
  | .flags _ :: _ => none
  | part :: parts =>
      some (.repetition times part :: parts,
        match rest with
        | '?' :: rest => rest
        | rest => rest)

/-- Read a part of a pattern that is no group. -/
def part? (spaced : Bool) : List Char → Option (Pattern × List Char)
  | [] => none
  | c :: rest =>
      if c = '[' then class? spaced rest
      else if c = '\\' then escape? spaced rest
      else if c = '\x7b' then none
      else if c = '.' then some (.any, rest)
      else if c = '^' ∨ c = '$' then some (.edge, rest)
      else some (.character c false, rest)

/-- The pattern of branches and of the parts of the last one, the latest in front. -/
def assembled (branches parts : List Pattern) : Pattern :=
  ofBranches (ofParts parts.reverse :: branches).reverse

/-- Read the rest of a group, up to its closing parenthesis or the end of the text,
after the branches and parts so far.  The first argument bounds the number of
parts. -/
def parts? : Nat → Bool → List Pattern → List Pattern → List Char → Option (Pattern × List Char)
  | 0, _, _, _, _ => none
  | fuel + 1, spaced, branches, parts, text =>
      match skip spaced text with
      | [] => some (assembled branches parts, [])
      | c :: rest =>
          if c = ')' then some (assembled branches parts, c :: rest)
          else if c = '|' then parts? fuel spaced (ofParts parts.reverse :: branches) [] rest
          else if c = '(' then
            match opening? (skip spaced rest) with
            | none => none
            | some (.flags settings, rest) =>
                parts? fuel (spacedAfter spaced settings) branches (.flags settings :: parts) rest
            | some (.group kind, rest) =>
                match parts? fuel (spacedAfter spaced kind.settings) [] [] rest with
                | some (body, ')' :: rest) =>
                    parts? fuel spaced branches (.group kind body :: parts) rest
                | _ => none
          else
            match Times.ofMark? c with
            | some times =>
                match repeat? times parts rest with
                | some (parts, rest) => parts? fuel spaced branches parts rest
                | none => none
            | none =>
                match part? spaced (c :: rest) with
                | some (part, rest) => parts? fuel spaced branches (part :: parts) rest
                | none => none

/-- The pattern that a text spells, usable or not. -/
def read? (text : List Char) : Option Pattern :=
  match parts? (text.length + 1) false [] [] text with
  | some (pattern, []) => some pattern
  | _ => none

/-- The usable pattern that a text spells. -/
def ofText? (text : List Char) : Option Pattern :=
  (read? text).filter isUsable

end Inset.Pattern
