import Inset.Toml.Scalars
import Inset.Toml.Strings
import Inset.Toml.Syntax

/-!
# Reading TOML documents

Every reader takes the text that is left and gives what it has read and what is
left after it, or a fault if the text is not TOML there.  A place in the text
is the number of characters that are left from it on.
-/

namespace Inset.Toml

open Data (Span)

/-- The result of a reader: what is read, and the text that is left. -/
abbrev Reading (α : Type) := Except Fault (α × List Char)

/-- The fault of a text that nothing can be made of. -/
def stray {α : Type} (text : List Char) : Except Fault α :=
  .error (Fault.atHead .unexpected text)

/-- What is read at the beginning of a text, if something is. -/
def orStray {α : Type} (text : List Char) : Option α → Except Fault α
  | some result => .ok result
  | none => stray text

/-! ## Blanks and comments -/

/-- The text after space. -/
def skipSpace (text : List Char) : List Char :=
  text.dropWhile isSpace

/-- The text after a comment, if it begins with one. -/
def skipComment : List Char → List Char
  | '#' :: rest => rest.dropWhile isPlain
  | text => text

/-- The text after the rest of a line, which holds at most a comment. -/
def endLine (text : List Char) : Except Fault (List Char) :=
  match skipComment (skipSpace text) with
  | [] => .ok []
  | rest => orStray rest ((lineBreak? rest).map fun size => rest.drop size)

/-- The text after space, line breaks and comments. -/
def skipBlanks (inComment : Bool) : List Char → List Char
  | [] => []
  | c :: rest =>
      if c = '\n' then skipBlanks false rest
      else if c = '\r' ∧ rest.head? = some '\n' then skipBlanks false rest
      else if inComment then if isPlain c then skipBlanks true rest else c :: rest
      else if isSpace c then skipBlanks false rest
      else if c = '#' then skipBlanks true rest
      else c :: rest

/-! ## Keys -/

/-- The characters of keys without quotation marks. -/
def isKeyChar (c : Char) : Bool :=
  c.isAlphanum || c == '-' || c == '_'

/-- Read a key without dots. -/
def key (text : List Char) : Reading Key :=
  let run := text.takeWhile isKeyChar
  if run.isEmpty then
    (orStray text (lineString text)).map fun (body, rest) =>
      (⟨String.ofList body, ⟨text.length, rest.length⟩⟩, rest)
  else
    let rest := text.dropWhile isKeyChar
    .ok (⟨String.ofList run, ⟨text.length, rest.length⟩⟩, rest)

/-- Read a key with dots, of at most as many parts as given. -/
def keyPath : Nat → List Char → Reading (List Key)
  | 0, text => stray text
  | fuel + 1, text =>
      match key text with
      | .error fault => .error fault
      | .ok (first, rest) =>
          match skipSpace rest with
          | '.' :: more =>
              (keyPath fuel (skipSpace more)).map fun (path, rest) => (first :: path, rest)
          | _ => .ok ([first], rest)

/-! ## Values -/

/-- The place between two texts that are left. -/
def between (text rest : List Char) : Span :=
  ⟨text.length, rest.length⟩

/-- Read a string as a value. -/
def textValue (text : List Char) : Reading Value :=
  (orStray text (anyString text)).map fun (body, rest) =>
    (.scalar (.text (String.ofList body)) (between text rest), rest)

mutual

/-- Read a value.  The first argument bounds the depth of the recursion; two for
every character are enough. -/
def value : Nat → List Char → Reading Value
  | 0, text => stray text
  | fuel + 1, text =>
      match text with
      | [] => stray text
      | '[' :: rest =>
          (arrayItems fuel (skipBlanks false rest)).map fun (items, rest) =>
            (.array items (between text rest), rest)
      | '\x7b' :: rest =>
          (tableItems fuel (skipBlanks false rest)).map fun (assignments, rest) =>
            (.inlineTable assignments (between text rest), rest)
      | '"' :: _ => textValue text
      | '\'' :: _ => textValue text
      | _ =>
          (scalar text).map fun (scalar, rest) => (.scalar scalar (between text rest), rest)

/-- Read the items of an array from a place where an item or the closing bracket
may stand. -/
def arrayItems : Nat → List Char → Reading (List Value)
  | 0, text => stray text
  | _ + 1, ']' :: rest => .ok ([], rest)
  | fuel + 1, text =>
      match value fuel text with
      | .error fault => .error fault
      | .ok (item, rest) =>
          match skipBlanks false rest with
          | ',' :: rest =>
              (arrayItems fuel (skipBlanks false rest)).map fun (items, rest) =>
                (item :: items, rest)
          | ']' :: rest => .ok ([item], rest)
          | rest => stray rest

/-- Read the assignments of an inline table from a place where one of them or
the closing brace may stand. -/
def tableItems : Nat → List Char → Reading (List (List Key × Value))
  | 0, text => stray text
  | _ + 1, '\x7d' :: rest => .ok ([], rest)
  | fuel + 1, text =>
      match assignment fuel (skipBlanks false) text with
      | .error fault => .error fault
      | .ok (first, rest) =>
          match skipBlanks false rest with
          | ',' :: rest =>
              (tableItems fuel (skipBlanks false rest)).map fun (assignments, rest) =>
                (first :: assignments, rest)
          | '\x7d' :: rest => .ok ([first], rest)
          | rest => stray rest

/-- Read a dotted key, an equals sign and a value.  `skipGap` passes over what
may stand around the equals sign: space on a line of a document, line breaks and
comments too between braces. -/
def assignment : Nat → (List Char → List Char) → List Char → Reading (List Key × Value)
  | 0, _, text => stray text
  | fuel + 1, skipGap, text =>
      match keyPath text.length text with
      | .error fault => .error fault
      | .ok (path, rest) =>
          match skipGap rest with
          | '=' :: rest =>
              (value fuel (skipGap rest)).map fun (value, rest) => ((path, value), rest)
          | rest => stray rest

end

/-! ## Documents -/

/-- Read a header. -/
def header (text : List Char) : Reading Header :=
  let (isElement, rest) : Bool × List Char := match text with
    | '[' :: '[' :: rest => (true, rest)
    | text => (false, text.drop 1)
  match keyPath rest.length (skipSpace rest) with
  | .error fault => .error fault
  | .ok (path, rest) =>
      match isElement, skipSpace rest with
      | true, ']' :: ']' :: rest => .ok (⟨true, path, between text rest⟩, rest)
      | false, ']' :: rest => .ok (⟨false, path, between text rest⟩, rest)
      | _, rest => stray rest

/-- Read the lines of a document: the assignments up to the first header, and
the sections.  The first argument bounds the number of lines. -/
def lines : Nat → List Char → Except Fault Document
  | 0, text => stray text
  | fuel + 1, text =>
      match skipBlanks false text with
      | [] => .ok ⟨[], []⟩
      | '[' :: rest =>
          match header ('[' :: rest) with
          | .error fault => .error fault
          | .ok (header, rest) =>
              match endLine rest with
              | .error fault => .error fault
              | .ok rest =>
                  (lines fuel rest).map fun document =>
                    ⟨[], ⟨header, document.preamble⟩ :: document.sections⟩
      | text =>
          match assignment (2 * text.length + 2) skipSpace text with
          | .error fault => .error fault
          | .ok (first, rest) =>
              match endLine rest with
              | .error fault => .error fault
              | .ok rest =>
                  (lines fuel rest).map fun document =>
                    ⟨first :: document.preamble, document.sections⟩

/-- The text after the byte order mark, if it begins with one. -/
def dropMark : List Char → List Char
  | '\ufeff' :: rest => rest
  | text => text

/-- Read a document. -/
def Document.ofText (text : List Char) : Except Fault Document :=
  lines (text.length + 1) (dropMark text)

end Inset.Toml
