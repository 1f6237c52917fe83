import CykChart.Text.Printable

/-!
# Quoted text

The form in which messages show a piece of text. It stands between single quotes, or between
double quotes when it holds a single quote and no double one. The enclosing quote and the
backslash are escaped by a backslash, tab, line feed and carriage return have short escapes, and
every other character that is not printable is written by its code point, in the shortest of the
forms `\xNN`, `\uNNNN` and `\UNNNNNNNN`.

## Main definitions

- `enclosingQuote`: the quote that a text calls for.
- `escaped`: one character between such quotes.
- `quoted`: the quoted form.
-/

namespace CykChart.Text

/-- The last `width` hexadecimal digits of a number, in lower case. -/
def hexDigits : Nat → Nat → List Char
  | 0, _ => []
  | width + 1, n => hexDigits width (n / 16) ++ [Nat.digitChar (n % 16)]

/-- The number of digits is the width asked for. -/
@[simp]
theorem length_hexDigits (width n : Nat) : (hexDigits width n).length = width := by
  induction width generalizing n with
  | zero => rfl
  | succ width ih => simp [hexDigits, ih]

/-- The quote around a text: the single one, unless the text holds it and no double one. -/
def enclosingQuote (cs : List Char) : Char :=
  if cs.contains '\x27' && !cs.contains '\x22' then '\x22' else '\x27'

/-- One character between two quotes `mark`. -/
def escaped (mark c : Char) : List Char :=
  if c = mark || c = '\\' then ['\\', c]
  else if c = '\t' then ['\\', 't']
  else if c = '\n' then ['\\', 'n']
  else if c = '\r' then ['\\', 'r']
  else if isPrintable c then [c]
  else if c.toNat < 0x100 then '\\' :: 'x' :: hexDigits 2 c.toNat
  else if c.toNat < 0x10000 then '\\' :: 'u' :: hexDigits 4 c.toNat
  else '\\' :: 'U' :: hexDigits 8 c.toNat

/-- A text between quotes, with escapes. -/
def quoted (cs : List Char) : String :=
  let mark := enclosingQuote cs
  String.ofList (mark :: cs.flatMap (escaped mark) ++ [mark])

end CykChart.Text
