import CykChart.Grammar.Basic
import Mathlib.Data.Int.ModEq
import Mathlib.Data.List.TakeWhile

/-!
# No symbol is upper case and lower case

The two character classes are tables of runs in ascending order. Two runs whose ranges overlap have
no code point in common when one of them is a single code point off the other, or when their strides
keep them in different residue classes, as the runs of `Ā Ă Ą …` and of `ā ă ą …` do. One pass over
both tables applies that test wherever ranges overlap.

## Main definitions

- `Run.apart`: the test for two runs.
- `CharSet.ascending`, `CharSet.apart`: the order of a table, and the pass over two of them.

## Main results

- `CharSet.has_eq_false_of_apart`: ascending tables that pass the test are disjoint.
- `isTerminal_eq_false`: a symbol that can be a nonterminal cannot be a terminal.
-/

namespace CykChart

namespace Text

/-- Two runs that cannot meet although their ranges may overlap: one is a single code point that
the other does not have, or the greatest common divisor of the strides tells members apart. -/
def Run.apart (r s : Run) : Bool :=
  (r.first == r.last && !s.has r.first) || (s.first == s.last && !r.has s.first) ||
    r.first % r.stride.gcd s.stride != s.first % r.stride.gcd s.stride

/-- A member of a run lies between its two ends. -/
theorem Run.bounds_of_has {r : Run} {code : Nat} (h : r.has code = true) :
    r.first ≤ code ∧ code ≤ r.last := by
  simp only [Run.has, Bool.and_eq_true, decide_eq_true_eq] at h
  exact h.1

/-- A member of a run is congruent to its first member, modulo any divisor of the stride. -/
theorem Run.mod_eq_of_has {r : Run} {code d : Nat} (hd : d ∣ r.stride) (h : r.has code = true) :
    code % d = r.first % d := by
  obtain ⟨hfirst, _⟩ := Run.bounds_of_has h
  simp only [Run.has, Bool.and_eq_true, decide_eq_true_eq, beq_iff_eq] at h
  have hdvd : d ∣ code - r.first := hd.trans (Nat.dvd_of_mod_eq_zero h.2)
  exact ((Nat.modEq_iff_dvd' hfirst).2 hdvd).symm

/-- Runs that are apart have no member in common. -/
theorem Run.has_eq_false_of_apart {r s : Run} {code : Nat} (hapart : r.apart s = true)
    (hr : r.has code = true) : s.has code = false := by
  rw [Bool.eq_false_iff]
  intro hs
  have hbr := Run.bounds_of_has hr
  have hbs := Run.bounds_of_has hs
  have hmodr := Run.mod_eq_of_has (Nat.gcd_dvd_left r.stride s.stride) hr
  have hmods := Run.mod_eq_of_has (Nat.gcd_dvd_right r.stride s.stride) hs
  simp only [Run.apart, Bool.or_eq_true, Bool.and_eq_true, beq_iff_eq, bne_iff_ne,
    Bool.not_eq_true', ← hmodr, ← hmods] at hapart
  -- A run of one code point has only that one; else the residues would have to agree.
  rcases hapart with (⟨heq, hhas⟩ | ⟨heq, hhas⟩) | hne
  · rw [show r.first = code by omega, hs] at hhas
    exact Bool.noConfusion hhas
  · rw [show s.first = code by omega, hr] at hhas
    exact Bool.noConfusion hhas
  · exact hne rfl

/-- Whether the runs of a set stand in the order of their first code points. -/
def CharSet.ascending : CharSet → Bool
  | [] => true
  | [_] => true
  | r :: s :: rest => r.first ≤ s.first && ascending (s :: rest)

/-- In an ascending set no run begins before the one in front. -/
theorem CharSet.first_le_of_ascending {r s : Run} {rest : CharSet}
    (h : CharSet.ascending (r :: rest) = true) (hs : s ∈ rest) : r.first ≤ s.first := by
  induction rest generalizing r with
  | nil => exact absurd hs List.not_mem_nil
  | cons t rest ih =>
    simp only [CharSet.ascending, Bool.and_eq_true, decide_eq_true_eq] at h
    rcases List.mem_cons.1 hs with rfl | hs
    · exact h.1
    · exact h.1.trans (ih h.2 hs)

/-- An ascending set stays ascending without its first run. -/
theorem CharSet.ascending_of_cons {r : Run} {rest : CharSet}
    (h : CharSet.ascending (r :: rest) = true) : CharSet.ascending rest = true := by
  cases rest with
  | nil => rfl
  | cons s rest =>
    simp only [CharSet.ascending, Bool.and_eq_true] at h
    exact h.2

/-- An ascending set stays ascending without the runs at its beginning. -/
theorem CharSet.ascending_dropWhile {set : CharSet} {p : Run → Bool}
    (h : CharSet.ascending set = true) : CharSet.ascending (set.dropWhile p) = true := by
  induction set with
  | nil => rfl
  | cons r rest ih =>
    rw [List.dropWhile_cons]
    split
    · exact ih (CharSet.ascending_of_cons h)
    · exact h

/-- Whether one run is apart from those of an ascending set that begin before it ends. -/
def Run.apartFrom (r : Run) : CharSet → Bool
  | [] => true
  | s :: rest => if r.last < s.first then true else r.apart s && apartFrom r rest

/-- A run that is apart from the runs that begin before it ends has no member in the set. -/
theorem Run.has_eq_false_of_apartFrom {r s : Run} {set : CharSet} {code : Nat}
    (hset : CharSet.ascending set = true) (hapart : r.apartFrom set = true)
    (hr : r.has code = true) (hs : s ∈ set) : s.has code = false := by
  induction set with
  | nil => exact absurd hs List.not_mem_nil
  | cons t rest ih =>
    rw [Run.apartFrom] at hapart
    split at hapart
    next hlt =>
      -- The runs from `t` on begin after `r` has ended.
      have hle : t.first ≤ s.first := by
        rcases List.mem_cons.1 hs with rfl | hs
        · exact le_rfl
        · exact CharSet.first_le_of_ascending hset hs
      rw [Bool.eq_false_iff]
      intro hhas
      have hbr := Run.bounds_of_has hr
      have hbs := Run.bounds_of_has hhas
      omega
    next =>
      rw [Bool.and_eq_true] at hapart
      rcases List.mem_cons.1 hs with rfl | hs
      · exact Run.has_eq_false_of_apart hapart.1 hr
      · exact ih (CharSet.ascending_of_cons hset) hapart.2 hs

/-- Whether the runs of two ascending sets are apart. Runs of the second set that end before a run
of the first one begins are left behind for good. -/
def CharSet.apart : CharSet → CharSet → Bool
  | [], _ => true
  | r :: left, right =>
    let ahead := right.dropWhile (·.last < r.first)
    r.apartFrom ahead && apart left ahead

/-- A run that ends at or after a bound is not left behind. -/
theorem CharSet.mem_dropWhile {s : Run} {set : CharSet} (bound : Nat) (hs : s ∈ set)
    (hlast : bound ≤ s.last) : s ∈ set.dropWhile (·.last < bound) := by
  rw [← List.takeWhile_append_dropWhile (p := fun r : Run => decide (r.last < bound)) (l := set),
    List.mem_append] at hs
  rcases hs with hs | hs
  · have hlt := List.mem_takeWhile_imp hs
    rw [decide_eq_true_eq] at hlt
    omega
  · exact hs

/-- Runs of ascending sets that are apart have no member in common. -/
theorem CharSet.has_eq_false_of_mem {left right : CharSet} {r s : Run} {code : Nat}
    (hleft : left.ascending = true) (hright : right.ascending = true)
    (hapart : left.apart right = true) (hr : r ∈ left) (hs : s ∈ right)
    (hcode : r.has code = true) : s.has code = false := by
  induction left generalizing right with
  | nil => exact absurd hr List.not_mem_nil
  | cons t left ih =>
    simp only [CharSet.apart, Bool.and_eq_true] at hapart
    have htr : t.first ≤ r.first := by
      rcases List.mem_cons.1 hr with rfl | hr
      · exact le_rfl
      · exact CharSet.first_le_of_ascending hleft hr
    rw [Bool.eq_false_iff]
    intro hhas
    have hbr := Run.bounds_of_has hcode
    have hbs := Run.bounds_of_has hhas
    -- A run of the other set that has this member ends no earlier than `t` begins, so it is kept.
    have hahead := CharSet.mem_dropWhile t.first hs (by omega)
    have hsorted := CharSet.ascending_dropWhile (p := (·.last < t.first)) hright
    rcases List.mem_cons.1 hr with rfl | hr
    · rw [Run.has_eq_false_of_apartFrom hsorted hapart.1 hcode hahead] at hhas
      exact Bool.noConfusion hhas
    · rw [ih (CharSet.ascending_of_cons hleft) hsorted hapart.2 hr hahead] at hhas
      exact Bool.noConfusion hhas

/-- Ascending sets that are apart have no character in common. -/
theorem CharSet.has_eq_false_of_apart {left right : CharSet} {c : Char}
    (hleft : left.ascending = true) (hright : right.ascending = true)
    (hapart : left.apart right = true) (hc : left.has c = true) : right.has c = false := by
  obtain ⟨r, hr, hrc⟩ := CharSet.has_iff.1 hc
  rw [Bool.eq_false_iff]
  intro hhas
  obtain ⟨s, hs, hsc⟩ := CharSet.has_iff.1 hhas
  rw [CharSet.has_eq_false_of_mem hleft hright hapart hr hs hrc] at hsc
  exact Bool.noConfusion hsc

end Text

/-- A symbol that can be a nonterminal cannot be a terminal. -/
theorem isTerminal_eq_false {c : Char} (h : isNonterminal c = true) : isTerminal c = false := by
  have hupper : Text.uppercase.ascending = true := by decide +kernel
  have hlower : Text.lowercase.ascending = true := by decide +kernel
  have hapart : Text.uppercase.apart Text.lowercase = true := by decide +kernel
  exact Text.CharSet.has_eq_false_of_apart hupper hlower hapart h

/-- A symbol that can be a terminal cannot be a nonterminal. -/
theorem isNonterminal_eq_false {c : Char} (h : isTerminal c = true) : isNonterminal c = false := by
  rw [Bool.eq_false_iff]
  intro hupper
  rw [isTerminal_eq_false hupper] at h
  exact Bool.noConfusion h

end CykChart
