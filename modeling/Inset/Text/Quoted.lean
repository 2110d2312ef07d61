import Inset.Text.Hex
import Inset.Text.Hidden

/-!
# Quoted text in messages

Messages show a text between quotation marks.  Backslash and the quotation
mark are escaped by a backslash, four controls have a letter of their own, and
every other hidden character is spelled by its code in braces.
-/

namespace Inset.Text

/-- How one character appears inside a quoted text. -/
def quotedChar (c : Char) : List Char :=
  if c = '"' then ['\\', '"']
  else if c = '\\' then ['\\', '\\']
  else if c = '\n' then ['\\', 'n']
  else if c = '\r' then ['\\', 'r']
  else if c = '\t' then ['\\', 't']
  else if c = '\x00' then ['\\', '0']
  else if isHidden c then ['\\', 'u', '\x7b'] ++ hexDigits c.toNat ++ ['\x7d']
  else [c]

/-- The quoted form of a text. -/
def quoted (text : String) : String :=
  String.ofList ('"' :: text.toList.flatMap quotedChar ++ ['"'])

end Inset.Text
