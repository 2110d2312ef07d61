import Inset.Decimal.Style
import Inset.Json.Value
import Inset.Text.Hex

/-!
# The written form of JSON values

Strings are written with the shortest escape there is, and only quotation
marks, backslashes and characters below `U+0020` are escaped.  Values are
written over several lines: every item and every member has a line of its own,
two spaces further right than the bracket that holds it, and an empty array or
object is written without a line break.
-/

namespace Inset.Json

/-- How one character is written inside a string. -/
def escape (c : Char) : List Char :=
  if c = '"' then ['\\', '"']
  else if c = '\\' then ['\\', '\\']
  else if c = '\x08' then ['\\', 'b']
  else if c = '\x0c' then ['\\', 'f']
  else if c = '\n' then ['\\', 'n']
  else if c = '\r' then ['\\', 'r']
  else if c = '\t' then ['\\', 't']
  else if c.toNat < 0x20 then
    ['\\', 'u', '0', '0', Text.hexDigit (c.toNat / 16), Text.hexDigit (c.toNat % 16)]
  else [c]

/-- A string with its quotation marks. -/
def quote (text : String) : List Char :=
  '"' :: (text.toList.flatMap escape ++ ['"'])

/-- The text of a number. -/
def Number.text : Number → List Char
  | integer value => (toString value).toList
  | real value => (Decimal.Style.json.text value).toList

/-- A line break and the margin of the given depth. -/
def newline (depth : Nat) : List Char :=
  '\n' :: List.replicate (2 * depth) ' '

mutual

/-- A value whose brackets stand at the given depth. -/
def Value.lines (depth : Nat) : Value → List Char
  | .null => ['n', 'u', 'l', 'l']
  | .boolean true => ['t', 'r', 'u', 'e']
  | .boolean false => ['f', 'a', 'l', 's', 'e']
  | .number value => value.text
  | .string text => quote text
  | .array [] => ['[', ']']
  | .array (item :: items) =>
      '[' :: (newline (depth + 1) ++ item.lines (depth + 1) ++
        itemLines (depth + 1) items ++ newline depth ++ [']'])
  | .object [] => ['\x7b', '\x7d']
  | .object ((key, value) :: members) =>
      '\x7b' :: (newline (depth + 1) ++ quote key ++ [':', ' '] ++
        value.lines (depth + 1) ++ memberLines (depth + 1) members ++
        newline depth ++ ['\x7d'])

/-- The items of an array after its first one. -/
def itemLines (depth : Nat) : List Value → List Char
  | [] => []
  | item :: items =>
      ',' :: (newline depth ++ item.lines depth ++ itemLines depth items)

/-- The members of an object after its first one. -/
def memberLines (depth : Nat) : List (String × Value) → List Char
  | [] => []
  | (key, value) :: members =>
      ',' :: (newline depth ++ quote key ++ [':', ' '] ++ value.lines depth ++
        memberLines depth members)

end

/-- The written form of a value, without a final line break. -/
def Value.text (value : Value) : String :=
  String.ofList (value.lines 0)

end Inset.Json
