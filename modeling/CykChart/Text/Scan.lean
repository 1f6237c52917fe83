import CykChart.Text.Blank

/-!
# Cutting text into pieces

Lines, words and trimmed text, as functions on lists of characters. A line is ended by the line
feed alone, so a text has one line more than it has line feeds; words are separated by any white
space and are never empty.

## Main definitions

- `lines`, `words`: the pieces of a text.
- `trim`, `trimEnd`, `withoutBlanks`: text with less white space.
- `unixNewlines`: every spelling of a line end as a line feed.
-/

namespace CykChart.Text

/-- The lines of a text. -/
def lines (cs : List Char) : List (List Char) :=
  cs.splitOn '\n'

/-- The words of a text: its longest stretches without white space. -/
def words (cs : List Char) : List (List Char) :=
  (cs.splitOnP isBlank).filter (!·.isEmpty)

/-- Text without white space at its end. -/
def trimEnd (cs : List Char) : List Char :=
  (cs.reverse.dropWhile isBlank).reverse

/-- Text without white space at either end. -/
def trim (cs : List Char) : List Char :=
  trimEnd (cs.dropWhile isBlank)

/-- Text without any white space. -/
def withoutBlanks (cs : List Char) : List Char :=
  cs.filter (!isBlank ·)

/-- Text with every line end, `\r\n` or a lone `\r`, as a line feed. -/
def unixNewlines : List Char → List Char
  | '\r' :: '\n' :: rest => '\n' :: unixNewlines rest
  | '\r' :: rest => '\n' :: unixNewlines rest
  | c :: rest => c :: unixNewlines rest
  | [] => []

/-- A text without carriage returns keeps its line ends. -/
theorem unixNewlines_eq_self {cs : List Char} (h : '\r' ∉ cs) : unixNewlines cs = cs := by
  fun_induction unixNewlines cs <;> simp_all

end CykChart.Text
