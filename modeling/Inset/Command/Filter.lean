import Inset.Command.Log
import Inset.Pattern.Reader

/-!
# Log filters

A filter decides which events are shown, by their level and by the part of the
program that they come from.  It is a list of directives, which a text spells
with commas between them.
-/

namespace Inset.Command

/-- A field that a directive asks for, perhaps with a pattern for its value. -/
structure Field where
  name : String
  value : Option String
  deriving DecidableEq

/-- A part of a filter: the gravity from which events are shown, for the topics
whose names begin with the target.  Without a level nothing is shown. -/
structure Directive where
  target : Option String
  span : Option String
  field : Option Field
  level : Option Level
  deriving DecidableEq

/-- A filter is a list of directives; a later one replaces an earlier one that
asks for the same. -/
abbrev Filter := List Directive

/-- The only field that events have. -/
def messageField : String :=
  "message"

/-- Whether a directive is about a topic.  Events are in no span, and their fields
are not compared with values. -/
def Directive.covers (directive : Directive) (topic : Topic) : Bool :=
  directive.span.isNone &&
    directive.field.all (· = ⟨messageField, none⟩) &&
    directive.target.all fun target => target.toList.isPrefixOf topic.name.toList

/-- How much a directive asks for: the bytes of its target first, then its field. -/
def Directive.specificity (directive : Directive) : Nat :=
  2 * (directive.target.elim 0 fun target => target.utf8ByteSize + 1) +
    if directive.field.isSome then 1 else 0

/-- The more specific of two directives, or the later one. -/
def Directive.prefer (chosen : Option Directive) (next : Directive) : Option Directive :=
  match chosen with
  | none => some next
  | some directive =>
      if directive.specificity ≤ next.specificity then some next else some directive

/-- The directive that decides about a topic: the most specific one about it. -/
def Filter.deciding? (filter : Filter) (topic : Topic) : Option Directive :=
  (filter.filter (·.covers topic)).foldl Directive.prefer none

/-- Whether a filter shows an event.  Without a directive about its topic it does
not. -/
def Filter.shows (filter : Filter) (event : Event) : Bool :=
  match filter.deciding? event.topic with
  | some ⟨_, _, _, some level⟩ => event.level.rank ≤ level.rank
  | _ => false

/-- The filter of a command without one of its own. -/
def Filter.default (verbose : Bool) : Filter :=
  [⟨none, none, none, some (if verbose then .debug else .info)⟩]

/-- The lines that a filter lets through. -/
def Filter.lines (filter : Filter) (events : List Event) : String :=
  String.join ((events.filter filter.shows).map Event.line)

/-! ## Levels and fields in texts -/

/-- The lower-case form of an ASCII letter. -/
def lower (text : List Char) : List Char :=
  text.map Char.toLower

/-- The number that a text of digits spells, perhaps with a plus sign. -/
def digitNumber? (text : List Char) : Option Nat :=
  let digits := match text with
    | '+' :: rest => rest
    | text => text
  if digits.isEmpty || !digits.all Char.isDigit then none
  else some (digits.foldl (fun value c => 10 * value + (c.toNat - 0x30)) 0)

/-- The level that a text names, in letters of either case or by its rank; the
inner `none` is the level of nothing. -/
def levelOf? (text : List Char) : Option (Option Level) :=
  match digitNumber? text with
  | some 0 => some none
  | some 1 => some (some .error)
  | some 2 => some (some .warn)
  | some 3 => some (some .info)
  | some 4 => some (some .debug)
  | some 5 => some (some .trace)
  | _ =>
      if lower text = "error".toList then some (some .error)
      else if lower text = "warn".toList then some (some .warn)
      else if lower text = "info".toList then some (some .info)
      else if lower text = "debug".toList then some (some .debug)
      else if lower text = "trace".toList then some (some .trace)
      else if lower text = "off".toList then some none
      else none

/-- The level after an equals sign; everything is shown if there is none. -/
def levelAfter? (text : List Char) : Option (Option Level) :=
  if text.isEmpty then some (some .trace) else levelOf? text

/-- Whether a text is an exponent or nothing. -/
def isExponent : List Char → Bool
  | [] => true
  | mark :: sign :: rest =>
      let digits := if sign = '+' ∨ sign = '-' then rest else sign :: rest
      (mark == 'e' || mark == 'E') && !digits.isEmpty && digits.all Char.isDigit
  | _ => false

/-- Whether a text is a number without a sign, or the word for a double that has
no digits. -/
def isUnsignedNumber (text : List Char) : Bool :=
  let whole := text.takeWhile Char.isDigit
  match text.dropWhile Char.isDigit with
  | '.' :: rest =>
      let part := rest.takeWhile Char.isDigit
      !(whole.isEmpty && part.isEmpty) && isExponent (rest.dropWhile Char.isDigit)
  | rest =>
      (!whole.isEmpty && isExponent rest) ||
        String.ofList (lower text) ∈ ["inf", "infinity", "nan"]

/-- Whether a field may be asked to have a value: it is a pattern or a number.  Only
numbers with a plus sign are no patterns. -/
def isFieldValue (text : List Char) : Bool :=
  (Pattern.ofText? text).isSome ||
    match text with
    | '+' :: rest => isUnsignedNumber rest
    | _ => false

/-- The parts of a text between the marks of one kind. -/
def splitOn (mark : Char) : List Char → List (List Char)
  | [] => [[]]
  | c :: rest =>
      if c = mark then [] :: splitOn mark rest
      else
        match splitOn mark rest with
        | [] => [[c]]
        | part :: parts => (c :: part) :: parts

/-- The field that a text asks for: a name, and a value after an equals sign.  What
follows a second equals sign is left out. -/
def fieldOf? (text : List Char) : Option Field :=
  match splitOn '=' text with
  | name :: value :: _ =>
      if isFieldValue value then some ⟨String.ofList name, some (String.ofList value)⟩ else none
  | _ => if text.isEmpty then none else some ⟨String.ofList text, none⟩

/-! ## Directives in texts -/

/-- Cut a text after so many bytes, if they are whole characters. -/
def splitBytes? : Nat → List Char → Option (List Char × List Char)
  | 0, text => some ([], text)
  | _, [] => none
  | size, c :: rest =>
      if c.utf8Size ≤ size then
        (splitBytes? (size - c.utf8Size) rest).map fun (before, after) => (c :: before, after)
      else none

/-- Why a text is no filter. -/
inductive FilterFault
  /-- One of its directives is not valid. -/
  | invalid
  /-- A piece of a directive would begin or end within a character. -/
  | cut
  deriving DecidableEq

/-- What there is of an optional thing, without which a text is not valid. -/
def orInvalid {α : Type} : Option α → Except FilterFault α
  | some value => .ok value
  | none => .error .invalid

/-- The bytes of a text from an offset on. -/
def pieceFrom (text : List Char) (start : Nat) : Except FilterFault (List Char) :=
  match splitBytes? start text with
  | some (_, rest) => .ok rest
  | none => .error .cut

/-- The bytes of a text from one offset up to another. -/
def piece (text : List Char) (start stop : Nat) : Except FilterFault (List Char) :=
  match pieceFrom text start with
  | .error fault => .error fault
  | .ok rest =>
      match splitBytes? (stop - start) rest with
      | some (before, _) => .ok before
      | none => .error .cut

/-- Where the reading of a directive stands, with the offset at which the piece in
hand begins. -/
inductive Stage
  | start
  /-- In a level or a target. -/
  | word
  | span (start : Nat)
  | field (start : Nat)
  /-- After a field. -/
  | fieldEnd
  /-- After a target in brackets. -/
  | targetEnd
  | level (start : Nat)
  deriving DecidableEq

/-- Whether a directive may begin with a character. -/
def beginsDirective (c : Char) : Bool :=
  c == '-' || c == ':' || c == '_' || Text.isAlphanumeric c

/-- Read the character at an offset.  The pieces of a directive are cut out of
`text`. -/
def Directive.step (text : List Char) (offset : Nat) (c : Char) (directive : Directive) :
    Stage → Except FilterFault (Stage × Directive)
  | .start =>
      if c = '[' then .ok (.span (offset + 1), directive)
      else if beginsDirective c then .ok (.word, directive)
      else .error .invalid
  | .word =>
      if c = '=' then
        (piece text 0 offset).map fun target =>
          (.level (offset + 1), { directive with target := some (String.ofList target) })
      else if c = '[' then
        (piece text 0 offset).map fun target =>
          (.span (offset + 1), { directive with target := some (String.ofList target) })
      else .ok (.word, directive)
  | .span start =>
      if c = ']' then
        (piece text start offset).map fun name =>
          (.targetEnd, { directive with span := some (String.ofList name) })
      else if c = '\x7b' then
        (piece text start offset).map fun name =>
          (.field (offset + 1),
            if name.isEmpty then directive
            else { directive with span := some (String.ofList name) })
      else .ok (.span start, directive)
  | .field start =>
      if c = '\x7d' then
        match piece text start offset with
        | .error fault => .error fault
        | .ok name =>
            (orInvalid (fieldOf? name)).map fun field =>
              (.fieldEnd, { directive with field := some field })
      else .ok (.field start, directive)
  | .fieldEnd => if c = ']' then .ok (.targetEnd, directive) else .error .invalid
  | .targetEnd => if c = '=' then .ok (.level (offset + 1), directive) else .error .invalid
  | .level start => .ok (.level start, directive)

/-- Finish a directive at the end of its text.  A word that is no level is a
target. -/
def Directive.finish (text : List Char) (directive : Directive) :
    Stage → Except FilterFault Directive
  | .word =>
      match levelOf? text with
      | some level => .ok { directive with level := level }
      | none => .ok { directive with target := some (String.ofList text) }
  | .targetEnd => .ok directive
  | .level start =>
      match pieceFrom text start with
      | .error fault => .error fault
      | .ok rest =>
          (orInvalid (levelAfter? rest)).map fun level => { directive with level := level }
  | _ => .error .invalid

/-- Read a directive from an offset on. -/
def Directive.scan (text : List Char) :
    Nat → Stage → Directive → List Char → Except FilterFault Directive
  | _, stage, directive, [] => directive.finish text stage
  | offset, stage, directive, c :: rest =>
      match directive.step text offset c stage with
      | .error fault => .error fault
      | .ok (stage, directive) => scan text (offset + c.utf8Size) stage directive rest

/-- A text without the white space around it. -/
def trim (text : List Char) : List Char :=
  ((text.dropWhile Text.isBlankChar).reverse.dropWhile Text.isBlankChar).reverse

/-- The directive that a text spells: a level, a target, or a target, a span or a
field with a level.  Its marks are looked for in the text without the space
around it, but its pieces are cut out of the whole text at the same offsets, so
space in front shifts them. -/
def Directive.ofText (text : List Char) : Except FilterFault Directive :=
  scan text 0 .start ⟨none, none, none, some .trace⟩ (trim text)

/-! ## Filters in texts -/

/-- The directives that texts spell, up to the first fault. -/
def directivesOf : List (List Char) → Except FilterFault Filter
  | [] => .ok []
  | text :: texts =>
      match Directive.ofText text with
      | .error fault => .error fault
      | .ok directive => (directivesOf texts).map (directive :: ·)

/-- The filter that a text spells.  Nothing between commas is no directive. -/
def Filter.ofText (text : String) : Except FilterFault Filter :=
  directivesOf ((splitOn ',' text.toList).filter (!·.isEmpty))

/-- The filter that is in force: the one of the environment if it is valid, else
the default.  There is none if a piece of the text would be cut within a
character. -/
def Filter.choose? (text : Option String) (verbose : Bool) : Option Filter :=
  match text.map Filter.ofText with
  | some (.ok filter) => some filter
  | some (.error .cut) => none
  | _ => some (Filter.default verbose)

end Inset.Command
