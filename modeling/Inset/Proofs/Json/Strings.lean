import Inset.Json.Reader
import Inset.Json.Text

/-!
# Strings read back

The reader of strings undoes the escapes of the writer one character at a time
(`stringBody_escape`), and so reads back whatever stands in quotation marks.
-/

namespace Inset.Json

open Reader

/-! ## Escapes -/

/-- Four characters that spell a number are long enough to be one. -/
theorem hexUnit_of_number {a b c d : Char} {rest : List Char} {unit : Nat}
    (number : Text.hexNumber? [a, b, c, d] = some unit) :
    hexUnit (a :: b :: c :: d :: rest) = .ok unit := by
  have long : ¬ a.utf8Size + b.utf8Size + c.utf8Size + d.utf8Size < 4 := by
    have first := a.utf8Size_pos
    have second := b.utf8Size_pos
    have third := c.utf8Size_pos
    have fourth := d.utf8Size_pos
    omega
  simp [hexUnit, number, long]

/-- The escape of a control character that has no letter of its own. -/
theorem unescape_control {c : Char} (control : c.toNat < 0x20) (rest : List Char) :
    unescape ('u' :: '0' :: '0' :: Text.hexDigit (c.toNat / 16) ::
      Text.hexDigit (c.toNat % 16) :: rest) = .ok (c, 5) := by
  have number := Text.hexNumber?_byte (by omega : c.toNat < 0x100)
  have small : c.toNat < 0xd800 ∨ 0xdfff < c.toNat := Or.inl (by omega)
  simp [unescape, unicodeEscape, hexUnit_of_number number, small, Except.map]

/-- A letter after a backslash is read as the character that it stands for. -/
theorem stringBody_letter {letter c : Char} {rest : List Char}
    (stands : unescape (letter :: rest) = .ok (c, 1)) :
    stringBody 0 ('\\' :: letter :: rest) =
      (stringBody 0 rest).map fun (body, rest) => (c :: body, rest) := by
  simp [stringBody, stands]

/-- The reader of strings undoes the escape of a character. -/
theorem stringBody_escape (c : Char) (rest : List Char) :
    stringBody 0 (escape c ++ rest) =
      (stringBody 0 rest).map fun (body, rest) => (c :: body, rest) := by
  unfold escape
  -- One case for every line of the escape table.
  split
  · subst c
    exact stringBody_letter rfl
  split
  · subst c
    exact stringBody_letter rfl
  split
  · subst c
    exact stringBody_letter rfl
  split
  · subst c
    exact stringBody_letter rfl
  split
  · subst c
    exact stringBody_letter rfl
  split
  · subst c
    exact stringBody_letter rfl
  split
  · subst c
    exact stringBody_letter rfl
  split
  · next control =>
    simp [stringBody, unescape_control control rest]
  · next quotation backslash _ _ _ _ _ printable =>
    simp [stringBody, quotation, backslash, printable]

/-! ## Strings -/

/-- The escapes of a text up to a quotation mark are read as the text. -/
theorem stringBody_flatMap_escape (text rest : List Char) :
    stringBody 0 (text.flatMap escape ++ '"' :: rest) = .ok (text, rest) := by
  induction text with
  | nil => rfl
  | cons c text ih =>
      rw [List.flatMap_cons, List.append_assoc, stringBody_escape, ih]
      rfl

theorem quote_append (text : String) (rest : List Char) :
    quote text ++ rest = '"' :: (text.toList.flatMap escape ++ '"' :: rest) := by
  simp [quote]

end Inset.Json
