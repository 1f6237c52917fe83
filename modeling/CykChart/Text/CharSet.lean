/-!
# Sets of characters

A character class is a list of runs of code points. Letters often alternate between upper and
lower case, so a run has a stride as well as two ends, and a class of two thousand letters takes
fewer than two hundred runs.

## Main definitions

- `Run`: the code points `first`, `first + stride`, … up to `last`.
- `CharSet`: a finite union of runs.
- `CharSet.has`: membership, decided run by run.
-/

namespace CykChart.Text

/-- The code points `first`, `first + stride`, … that do not exceed `last`. -/
structure Run where
  /-- The least code point of the run. -/
  first : Nat
  /-- The greatest code point of the run. -/
  last : Nat
  /-- The distance between two neighbours. -/
  stride : Nat
  deriving DecidableEq, Repr

/-- Whether a code point lies on a run. -/
def Run.has (run : Run) (code : Nat) : Bool :=
  run.first ≤ code && code ≤ run.last && (code - run.first) % run.stride == 0

/-- A set of characters, given by runs of code points. -/
abbrev CharSet := List Run

/-- Whether a character belongs to a set. -/
def CharSet.has (set : CharSet) (c : Char) : Bool :=
  set.any (·.has c.toNat)

/-- A character belongs to a set exactly when one of its runs holds the code point. -/
theorem CharSet.has_iff {set : CharSet} {c : Char} :
    set.has c = true ↔ ∃ run ∈ set, run.has c.toNat = true := by
  simp [CharSet.has]

/-- The set of no runs is empty. -/
@[simp]
theorem CharSet.has_nil (c : Char) : CharSet.has [] c = false := rfl

/-- A character belongs to a union when it belongs to one of the two sets. -/
@[simp]
theorem CharSet.has_append (left right : CharSet) (c : Char) :
    CharSet.has (left ++ right) c = (left.has c || right.has c) := by
  simp [CharSet.has]

end CykChart.Text
