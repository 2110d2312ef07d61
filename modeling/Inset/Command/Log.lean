import Inset.Text.Hex

/-!
# Log events

What a command does is reported by events.  Each has a level and comes from a
part of the program; filters choose by both.
-/

namespace Inset.Command

/-- How grave an event is. -/
inductive Level
  | error
  | warn
  | info
  | debug
  | trace
  deriving DecidableEq, Inhabited

namespace Level

/-- The rank of a level; the gravest comes first. -/
def rank : Level → Nat
  | error => 1
  | warn => 2
  | info => 3
  | debug => 4
  | trace => 5

/-- The name of a level, right-aligned to five columns. -/
def label : Level → String
  | error => "ERROR"
  | warn => " WARN"
  | info => " INFO"
  | debug => "DEBUG"
  | trace => "TRACE"

end Level

/-- The part of the program that an event comes from. -/
inductive Topic
  | generation
  | manifest
  | build
  | check
  | print
  deriving DecidableEq

/-- The name by which filters choose a topic. -/
def Topic.name : Topic → String
  | generation => "inlang_grammar::assemble"
  | manifest => "inlang::util"
  | build => "inlang::main_build"
  | check => "inlang::main_check"
  | print => "inlang::main_print"

/-- A log event. -/
structure Event where
  level : Level
  topic : Topic
  message : String
  deriving DecidableEq

/-- How a character of a message is shown: characters that could begin a
control sequence are spelled out. -/
def shownChar (c : Char) : List Char :=
  if c = '\x1b' then ['\\', 'x', '1', 'b']
  else if c = '\x07' then ['\\', 'x', '0', '7']
  else if c = '\x08' then ['\\', 'x', '0', '8']
  else if c = '\x0c' then ['\\', 'x', '0', 'c']
  else if c = '\x7f' then ['\\', 'x', '7', 'f']
  else if 0x80 ≤ c.toNat ∧ c.toNat ≤ 0x9f then
    ['\\', 'u', '\x7b'] ++ Text.hexDigits c.toNat ++ ['\x7d']
  else [c]

/-- The line of an event. -/
def Event.line (event : Event) : String :=
  event.level.label ++ " " ++ String.ofList (event.message.toList.flatMap shownChar) ++ "\n"

end Inset.Command
