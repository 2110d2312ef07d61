import Inset.Toml.Strings

/-!
# Basic strings read back

In a basic string, quotation marks, backslashes and control characters have to be escaped.
The reader undoes these escapes one character at a time (`basicBody_escape`), and so reads
back whatever stands in quotation marks (`anyString_quote`).
-/

namespace Inset.Toml

/-- How a character is written in a basic string.  A control character is written by its
code. -/
def escape (c : Char) : List Char :=
  if c = '"' then ['\\', '"']
  else if c = '\\' then ['\\', '\\']
  else if c.toNat < 0x20 ∨ c.toNat = 0x7f then
    ['\\', 'u', '0', '0', Text.hexDigit (c.toNat / 16), Text.hexDigit (c.toNat % 16)]
  else [c]

/-- A text as a basic string. -/
def quote (text : String) : List Char :=
  '"' :: (text.toList.flatMap escape ++ ['"'])

/-! ## Escapes -/

/-- The code of a control character is read back. -/
theorem unescape_code {c : Char} (small : c.toNat < 0x100) (rest : List Char) :
    unescape ('u' :: '0' :: '0' :: Text.hexDigit (c.toNat / 16) ::
      Text.hexDigit (c.toNat % 16) :: rest) = some (c, 5) := by
  have number := Text.hexNumber?_byte small
  have valid : c.toNat.isValidChar := c.valid
  simp [unescape, codedChar, number, valid]

/-- The reader of basic strings undoes the escape of a character. -/
theorem basicBody_escape (c : Char) (rest : List Char) :
    basicBody 0 (escape c ++ rest) = (basicBody 0 rest).map (Body.push c) := by
  unfold escape
  split
  · subst c
    simp [basicBody, unescape]
  split
  · subst c
    simp [basicBody, unescape]
  split
  · next control =>
    simp [basicBody, unescape_code (by omega : c.toNat < 0x100) rest]
  · next quotation backslash printable =>
    have plain : isPlain c = true := by
      rw [not_or, Nat.not_lt] at printable
      simp [isPlain, printable]
    simp [basicBody, quotation, backslash, plain]

/-- The escapes of a text up to a quotation mark are read as the text. -/
theorem basicBody_flatMap_escape (text rest : List Char) :
    basicBody 0 (text.flatMap escape ++ '"' :: rest) = some (text, rest) := by
  induction text with
  | nil => rfl
  | cons c text ih =>
      rw [List.flatMap_cons, List.append_assoc, basicBody_escape, ih]
      rfl

/-! ## Strings -/

theorem quote_append (text : String) (rest : List Char) :
    quote text ++ rest = '"' :: (text.toList.flatMap escape ++ '"' :: rest) := by
  simp [quote]

/-- The escape of a character does not begin with a quotation mark. -/
theorem exists_escape (c : Char) : ∃ first more, escape c = first :: more ∧ first ≠ '"' := by
  unfold escape
  split
  · exact ⟨_, _, rfl, by decide⟩
  split
  · exact ⟨_, _, rfl, by decide⟩
  split
  · exact ⟨_, _, rfl, by decide⟩
  · next quotation _ _ => exact ⟨_, _, rfl, quotation⟩

/-- A written string is read as its text.  The empty one must not be followed by another
quotation mark, or a string over several lines would begin there. -/
theorem anyString_quote (text : String) {rest : List Char} (ends : rest.head? ≠ some '"') :
    anyString (quote text ++ rest) = some (text.toList, rest) := by
  have body := basicBody_flatMap_escape text.toList rest
  rw [quote_append]
  cases chars : text.toList with
  | nil =>
      rw [chars] at body
      cases rest with
      | nil => rfl
      | cons next rest =>
          have other : next ≠ '"' := by simpa using ends
          simp [anyString, lineString, other, basicBody]
  | cons c others =>
      rcases exists_escape c with ⟨first, more, escaped, other⟩
      rw [chars] at body
      simp only [List.flatMap_cons, escaped, List.cons_append, List.append_assoc] at body ⊢
      simp [anyString, lineString, other, body]

end Inset.Toml
