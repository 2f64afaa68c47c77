import Shroud.Text.Ranges

/-!
# White space

The property `White_Space`: 25 characters, among them the no-break space, the line separators and
the ideographic space, but not the zero-width space.
-/

set_option autoImplicit false

namespace Shroud.Text

/-- The ranges of code points with the property `White_Space`. -/
def blanks : List (Nat × Nat) :=
  [(0x9, 0xD), (0x20, 0x20), (0x85, 0x85), (0xA0, 0xA0), (0x1680, 0x1680), (0x2000, 0x200A),
   (0x2028, 0x2029), (0x202F, 0x202F), (0x205F, 0x205F), (0x3000, 0x3000)]

/-- The character is white space. -/
def isBlankChar (c : Char) : Bool := inRanges blanks c

/-- The text holds nothing but white space. -/
def isBlank (s : String) : Bool := s.toList.all isBlankChar

/-- A text without the white space around it. -/
def trim (cs : List Char) : List Char :=
  ((cs.dropWhile isBlankChar).reverse.dropWhile isBlankChar).reverse

/-- A text is blank exactly when all its characters are white space. -/
theorem isBlank_iff (s : String) : isBlank s = true ↔ ∀ c ∈ s.toList, isBlankChar c = true := by
  simp [isBlank]

end Shroud.Text
