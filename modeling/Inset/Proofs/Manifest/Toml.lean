import Inset.Manifest.Toml

/-!
# Texts that are no manifests

A line of a TOML document begins with a key, a header, space or a comment.  So a
text that begins with a brace, like every JSON object, is not TOML
(`ofToml_ne_ok_of_brace`).
-/

namespace Inset

namespace Toml

theorem key_brace (rest : List Char) : key ('\x7b' :: rest) = stray ('\x7b' :: rest) := by
  simp [key, isKeyChar, lineString, orStray]
  rfl

theorem keyPath_brace (fuel : Nat) (rest : List Char) :
    keyPath fuel ('\x7b' :: rest) = stray ('\x7b' :: rest) := by
  cases fuel with
  | zero => rfl
  | succ fuel =>
      rw [keyPath, key_brace]
      rfl

theorem assignment_brace (fuel : Nat) (skipGap : List Char → List Char) (rest : List Char) :
    assignment fuel skipGap ('\x7b' :: rest) = stray ('\x7b' :: rest) := by
  cases fuel with
  | zero => rw [assignment]
  | succ fuel =>
      rw [assignment, keyPath_brace]
      rfl

/-- No document begins with a brace. -/
theorem ofText_brace (rest : List Char) :
    Document.ofText ('\x7b' :: rest) = stray ('\x7b' :: rest) := by
  have mark : dropMark ('\x7b' :: rest) = '\x7b' :: rest := by
    rw [dropMark]
    simp
  have blanks : skipBlanks false ('\x7b' :: rest) = '\x7b' :: rest := by
    simp [skipBlanks, isSpace]
  rw [Document.ofText, mark, List.length_cons, lines, blanks]
  simp [assignment_brace, stray]

end Toml

/-- A text that begins with a brace is no manifest. -/
theorem Manifest.ofToml_ne_ok_of_brace {text : String}
    (brace : text.toList.head? = some '\x7b') (manifest : Manifest) :
    Manifest.ofToml text ≠ .ok manifest := by
  rcases List.head?_eq_some_iff.mp brace with ⟨rest, chars⟩
  rw [ofToml, chars]
  simp [Toml.readNode, Toml.ofText_brace, Toml.stray]

/-- The manifest that a text holds has been accepted. -/
theorem Manifest.validate_of_ofToml {text : String} {manifest : Manifest}
    (read : Manifest.ofToml text = .ok manifest) : manifest.validate = .ok () := by
  rw [ofToml] at read
  split at read
  · contradiction
  · split at read
    · contradiction
    · split at read
      · contradiction
      · next accepted =>
        cases read
        exact accepted

end Inset
