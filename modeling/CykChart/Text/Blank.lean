import CykChart.Text.CharSet

/-!
# White space

The characters that separate words and are trimmed from the ends of a line: the line and page
controls, the four information separators, and the spaces and separators of Unicode. The
zero-width characters U+180E, U+200B and U+FEFF are not white space.
-/

namespace CykChart.Text

/-- The code points of white space. -/
def blanks : CharSet :=
  [⟨0x9, 0xD, 1⟩, ⟨0x1C, 0x20, 1⟩, ⟨0x85, 0x85, 1⟩, ⟨0xA0, 0xA0, 1⟩, ⟨0x1680, 0x1680, 1⟩,
   ⟨0x2000, 0x200A, 1⟩, ⟨0x2028, 0x2029, 1⟩, ⟨0x202F, 0x202F, 1⟩, ⟨0x205F, 0x205F, 1⟩,
   ⟨0x3000, 0x3000, 1⟩]

/-- Whether a character is white space. -/
def isBlank (c : Char) : Bool :=
  blanks.has c

end CykChart.Text
