/-!
# Blank text

A text is *blank* when it holds nothing but white space, the empty text
included.  White space is the Unicode property `White_Space`.
-/

namespace Inset.Text

/-- The Unicode property `White_Space`. -/
def isBlankChar (c : Char) : Bool :=
  let code := c.toNat
  (0x09 ≤ code && code ≤ 0x0d) || code == 0x20 || code == 0x85 || code == 0xa0 ||
    code == 0x1680 || (0x2000 ≤ code && code ≤ 0x200a) || code == 0x2028 ||
    code == 0x2029 || code == 0x202f || code == 0x205f || code == 0x3000

/-- Whether a text holds no character besides white space. -/
def isBlank (text : String) : Bool :=
  text.toList.all isBlankChar

theorem isBlank_iff {text : String} :
    isBlank text = true ↔ ∀ c ∈ text.toList, isBlankChar c = true := by
  simp [isBlank]

end Inset.Text
