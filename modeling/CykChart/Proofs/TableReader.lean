import CykChart.Proofs.Cells
import CykChart.Proofs.Lookups
import CykChart.Proofs.Pieces

/-!
# Printed tables are read back

A printed table is cut into lines and the lines into fields. No nonterminal is a tab or a line feed,
so the fields are the cells, an empty one for each cell without symbols, and the bits of the symbols
of a field add up to the mask that was printed. A row is never without cells, so an empty line is a
row with one empty cell.

A table therefore tells the cells of the chart that it was printed from. The number of cells tells
the length of the word, hence how the cells are put into rows, and so the cells tell the table.

## Main definitions

- `Chart.cellRows`, `Chart.fields`: the cells of a chart and the fields of a printed table.
- `Chart.readRows`: the masks of the fields.
- `Chart.ReadBack`: how the fields of a table correspond to the cells of a chart.

## Main results

- `Chart.fields_print`: the fields of a printed table are the cells.
- `BitGrammar.Fits.checkedMask_symbols`: the symbols of a mask give the mask back.
- `BitGrammar.cellRows_eq_of_cells_eq`: the list of cells tells the rows.
- `Grammar.table_eq_iff_cells_eq`: tables are read back, and are equal when the cells are.
-/

namespace CykChart

namespace Chart

/-- The cells of a chart, row by row. -/
def cellRows (chart : Chart) : List (List (List Char)) :=
  chart.rows.map fun row => row.map fun (mask : Nat) => chart.grammar.symbols mask

/-- The fields of a printed table, line by line. What stands behind the end of the last line is left
out. -/
def fields (text : String) : List (List (List Char)) :=
  (Text.lines text.toList).dropLast.map (·.splitOn '\t')

/-- The masks of the fields of a printed table, from the bits of their symbols. There are none when
some symbol has no bit. -/
def readRows (g : BitGrammar) (text : String) : Option (List (List Nat)) :=
  (fields text).mapM fun line => line.mapM (Grammar.checkedMask g.nonterminals)

/-- The fields of a table of a word are the cells of a chart. -/
structure ReadBack (word : List Char) (chart : Chart) (text : String) : Prop where
  /-- Nothing stands behind the last line. -/
  getLast?_lines : (Text.lines text.toList).getLast? = some []
  /-- There is a row for each length. -/
  length_fields : (fields text).length = word.length
  /-- The row of a length has a field for each offset, with the symbols of the cell. -/
  exists_row : ∀ span : Nat, 1 ≤ span → span ≤ word.length →
    ∃ row, (fields text)[span - 1]? = some row ∧ row.length = word.length + 1 - span ∧
      ∀ offset : Nat, offset + span ≤ word.length →
        ∃ cell, chart.cell offset span = .ok cell ∧ row[offset]? = some cell
  /-- The bits of the symbols add up to the masks. -/
  readRows_eq : readRows chart.grammar text = some chart.rows

/-! ## Lines and fields -/

/-- A line of cells as text. -/
def lineText (cells : List (List Char)) : List Char :=
  ['\t'].intercalate cells

theorem flatten_cellRows (chart : Chart) : chart.cellRows.flatten = chart.cells :=
  List.map_flatten.symm

/-- A table is the text of the cells. -/
theorem toList_print (chart : Chart) :
    chart.print.toList = (chart.cellRows.map lineText).flatMap (· ++ ['\n']) := by
  rw [print, String.toList_join, cellRows, List.map_map, List.flatMap_map, List.flatMap_map]
  refine List.flatMap_congr fun row _ => ?_
  rw [printRow, String.toList_append, String.toList_intercalate, List.map_map, Function.comp_apply,
    lineText]
  simp [Function.comp_def]

section Print

variable {chart : Chart}

theorem mem_nonterminals_of_mem_cellRows {row : List (List Char)} (hrow : row ∈ chart.cellRows)
    {cell : List Char} (hcell : cell ∈ row) {c : Char} (hc : c ∈ cell) :
    c ∈ chart.grammar.nonterminals := by
  obtain ⟨masks, -, rfl⟩ := List.mem_map.1 hrow
  obtain ⟨mask, -, rfl⟩ := List.mem_map.1 hcell
  exact (selectBits_sublist _ _).subset hc

/-- The text is made of the lines that were printed. -/
theorem lines_print (hletters : ∀ c ∈ chart.grammar.nonterminals, c ≠ '\t' ∧ c ≠ '\n') :
    Text.lines chart.print.toList = chart.cellRows.map lineText ++ [[]] := by
  rw [toList_print]
  refine Text.lines_flatMap_newline fun line hline hnewline => ?_
  obtain ⟨row, hrow, rfl⟩ := List.mem_map.1 hline
  rcases eq_or_mem_of_mem_intercalate hnewline with htab | ⟨cell, hcell, hmem⟩
  · exact absurd htab (by decide)
  · exact (hletters _ (mem_nonterminals_of_mem_cellRows hrow hcell hmem)).2 rfl

/-- The fields of a printed table are the cells. -/
theorem fields_print (hletters : ∀ c ∈ chart.grammar.nonterminals, c ≠ '\t' ∧ c ≠ '\n')
    (hrows : ∀ row ∈ chart.rows, row ≠ []) : fields chart.print = chart.cellRows := by
  rw [fields, lines_print hletters, List.dropLast_concat, List.map_map]
  refine (List.map_congr_left fun row hrow => ?_).trans (List.map_id _)
  -- Cutting undoes joining when no cell has a tab in it and there is a cell at all.
  refine List.splitOn_intercalate '\t' (fun cell hcell htab => ?_) ?_
  · exact (hletters _ (mem_nonterminals_of_mem_cellRows hrow hcell htab)).1 rfl
  · obtain ⟨masks, hmasks, rfl⟩ := List.mem_map.1 hrow
    simpa using hrows masks hmasks

/-- Charts with the same cells in the same rows are printed alike. -/
theorem print_eq_of_cellRows_eq {other : Chart} (h : chart.cellRows = other.cellRows) :
    chart.print = other.print := by
  rw [← String.toList_inj, toList_print, toList_print, h]

end Print

end Chart

namespace BitGrammar

variable {g : BitGrammar} {word : List Char}

/-! ## Masks and rows -/

/-- Every symbol of a mask has a bit, and together they give the mask back. -/
theorem Fits.checkedMask_symbols {mask : Nat} (hfits : g.Fits mask)
    (hnodup : g.nonterminals.Nodup) :
    Grammar.checkedMask g.nonterminals (g.symbols mask) = some mask := by
  have hsub : g.symbols mask ⊆ g.nonterminals := (selectBits_sublist _ _).subset
  rw [Grammar.checkedMask_eq hsub, hfits.maskIn_symbols hnodup]

/-- The rows of cells of a chart, span by span and offset by offset. -/
theorem cellRows_chart_eq_map (g : BitGrammar) (word : List Char) :
    (g.chart word).cellRows = (List.range' 1 word.length).map fun span =>
      (List.range (word.length + 1 - span)).map fun offset =>
        g.symbols ((g.chart word).mask offset span) := by
  rw [Chart.cellRows, rows_chart_eq_map, List.map_map]
  refine List.map_congr_left fun span _ => ?_
  rw [Function.comp_apply, List.map_map]
  rfl

/-- Each row has a cell. -/
theorem ne_nil_of_mem_rows_chart {row : List Nat} (hrow : row ∈ (g.chart word).rows) :
    row ≠ [] := by
  rw [rows_chart_eq_map] at hrow
  obtain ⟨span, hspan, rfl⟩ := List.mem_map.1 hrow
  rw [List.mem_range'_1] at hspan
  refine List.ne_nil_of_length_pos ?_
  rw [List.length_map, List.length_range]
  omega

/-- Charts with the same list of cells have the same cells in the same rows. -/
theorem cellRows_eq_of_cells_eq {h : BitGrammar} {other : List Char}
    (hcells : (g.chart word).cells = (h.chart other).cells) :
    (g.chart word).cellRows = (h.chart other).cellRows := by
  -- The number of cells tells the length of the word, which tells the lengths of the rows.
  have hlength : word.length = other.length := by
    have hnumber := congrArg List.length hcells
    rw [length_cells_chart, length_cells_chart] at hnumber
    exact triangle_injective hnumber
  refine List.eq_iff_flatten_eq.2 ⟨?_, ?_⟩
  · rw [Chart.flatten_cellRows, Chart.flatten_cellRows, hcells]
  · rw [cellRows_chart_eq_map, cellRows_chart_eq_map, List.map_map, List.map_map, hlength]
    refine List.map_congr_left fun span _ => ?_
    rw [Function.comp_apply, Function.comp_apply, List.length_map, List.length_map]

end BitGrammar

namespace Grammar

variable {g h : Grammar} {start : Char} {word other : List Char}

namespace WellFormed

/-! ## Tables of well-formed grammars -/

/-- No nonterminal is a sign of a printed table. -/
theorem ne_sign_of_mem_bits (hg : g.WellFormed) (start : Char) :
    ∀ c ∈ (g.bits start).nonterminals, c ≠ '\t' ∧ c ≠ '\n' := by
  intro c hc
  have hupper : isNonterminal c = true := hg.upper c (mem_bits_nonterminals.1 hc)
  have htab : isNonterminal '\t' = false := by decide +kernel
  have hnewline : isNonterminal '\n' = false := by decide +kernel
  constructor
  · rintro rfl
    exact Bool.false_ne_true (htab.symm.trans hupper)
  · rintro rfl
    exact Bool.false_ne_true (hnewline.symm.trans hupper)

/-- The fields of the printed table are the cells. -/
theorem fields_print_chart (hg : g.WellFormed) (start : Char) (word : List Char) :
    Chart.fields ((g.bits start).chart word).print = ((g.bits start).chart word).cellRows :=
  Chart.fields_print (hg.ne_sign_of_mem_bits start) fun _ => BitGrammar.ne_nil_of_mem_rows_chart

/-- The masks of a chart are read back from its table. -/
theorem readRows_print_chart (hg : g.WellFormed) (start : Char)
    (hword : ∀ c ∈ word, c ∈ g.terminals) :
    Chart.readRows (g.bits start) ((g.bits start).chart word).print =
      some ((g.bits start).chart word).rows := by
  rw [Chart.readRows, hg.fields_print_chart, BitGrammar.cellRows_chart_eq_map,
    BitGrammar.rows_chart_eq_map, List.mapM_map]
  -- Row by row and cell by cell, the symbols printed decode to the mask they come from.
  refine mapM_eq_some fun span hspan => ?_
  rw [List.mem_range'_1] at hspan
  rw [Function.comp_apply, List.mapM_map]
  refine mapM_eq_some fun offset hoffset => ?_
  rw [List.mem_range] at hoffset
  exact (fits_chart g start hword hspan.1 (by omega)).checkedMask_symbols hg.bits_nodup

/-- The printed table of a chart reads back as the chart. -/
theorem readBack_print_chart (hg : g.WellFormed) (start : Char)
    (hword : ∀ c ∈ word, c ∈ g.terminals) :
    Chart.ReadBack word ((g.bits start).chart word) ((g.bits start).chart word).print where
  getLast?_lines := by
    rw [Chart.lines_print (hg.ne_sign_of_mem_bits start), List.getLast?_concat]
  length_fields := by
    rw [hg.fields_print_chart, BitGrammar.cellRows_chart_eq_map, List.length_map,
      List.length_range']
  exists_row span hspan hlength := by
    rw [hg.fields_print_chart, BitGrammar.cellRows_chart_eq_map]
    refine ⟨_, getElem?_map_range'_one hspan hlength, by rw [List.length_map, List.length_range],
      fun offset hstretch => ?_⟩
    refine ⟨_, Chart.cell_eq_ok hspan hstretch, ?_⟩
    rw [List.getElem?_map, List.getElem?_range (by omega), Option.map_some]
    rfl
  readRows_eq := hg.readRows_print_chart start hword

end WellFormed

/-- The table of a word over the terminals of a reachable grammar that is ready is read back. Cut at
its line ends and tabs it has a line for each length and in it a field for each offset, which is the
text of the cell, and the bits of the symbols of the fields give the masks of the chart. So the
tables that two such grammars print, for whatever words, are equal exactly when the lists of cells
are. -/
theorem table_eq_iff_cells_eq (hg : g.Reachable) (hh : h.Reachable) (hrules : g.rules ≠ [])
    (hrules' : h.rules ≠ []) (hready : g.start ≠ none) (hready' : h.start ≠ none)
    (hword : ∀ c ∈ word, c ∈ g.terminals) (hother : ∀ c ∈ other, c ∈ h.terminals) :
    ∃ chart chart' text text', g.chart word = .ok chart ∧ g.table word = .ok text ∧
      h.chart other = .ok chart' ∧ h.table other = .ok text' ∧ Chart.ReadBack word chart text ∧
      (text = text' ↔ chart.cells = chart'.cells) := by
  obtain ⟨start, hstart⟩ := Option.ne_none_iff_exists'.1 hready
  obtain ⟨start', hstart'⟩ := Option.ne_none_iff_exists'.1 hready'
  refine ⟨_, _, _, _, chart_eq_ok hrules hstart hword, table_eq_ok hrules hstart hword,
    chart_eq_ok hrules' hstart' hother, table_eq_ok hrules' hstart' hother,
    hg.wellFormed.readBack_print_chart start hword, ?_⟩
  constructor
  · intro htext
    -- Equal texts have equal fields, and the fields are the cells row by row.
    have hfields := congrArg Chart.fields htext
    rw [hg.wellFormed.fields_print_chart, hh.wellFormed.fields_print_chart] at hfields
    rw [← Chart.flatten_cellRows, ← Chart.flatten_cellRows, hfields]
  · exact fun hcells => Chart.print_eq_of_cellRows_eq (BitGrammar.cellRows_eq_of_cells_eq hcells)

/-- Two grammars with different words: the masks of their charts of `ca` and `yx` differ, since in
one of them another nonterminal stands between the two, and the tables are the same. Their last line
is an empty field. -/
theorem table_eq_iff_cells_eq_empty_field :
    let g : Grammar :=
      { nonterminals := ['S', 'C', 'A']
        terminals := ['a', 'c']
        start := some 'S'
        rules := [⟨'S', .pair 'A' 'C'⟩, ⟨'A', .terminal 'a'⟩, ⟨'C', .terminal 'c'⟩] }
    let h : Grammar :=
      { nonterminals := ['A', 'R', 'C', 'B']
        terminals := ['x', 'y']
        start := some 'R'
        rules := [⟨'C', .terminal 'y'⟩, ⟨'R', .pair 'A' 'C'⟩, ⟨'A', .terminal 'x'⟩,
          ⟨'B', .pair 'A' 'A'⟩] }
    ∃ chart chart', g.chart ['c', 'a'] = .ok chart ∧ h.chart ['y', 'x'] = .ok chart' ∧
      chart.rows ≠ chart'.rows ∧ chart.cells = chart'.cells ∧
      Chart.ReadBack ['c', 'a'] chart "C\tA\n\n" ∧ g.table ['c', 'a'] = .ok "C\tA\n\n" ∧
      h.table ['y', 'x'] = .ok "C\tA\n\n" := by
  intro g h
  have hg : g.Reachable := .of_edits
    [.declareNonterminal (.text "S"), .declareNonterminal (.text "C"),
      .declareNonterminal (.text "A"), .declareTerminal (.text "a"), .declareTerminal (.text "c"),
      .setStart (.text "S"), .addRule (.text "S") (.text "AC"), .addRule (.text "A") (.text "a"),
      .addRule (.text "C") (.text "c")]
    (by decide +kernel)
  have hh : h.Reachable := .of_edits
    [.declareNonterminal (.text "A"), .declareNonterminal (.text "R"),
      .declareNonterminal (.text "C"), .declareNonterminal (.text "B"),
      .declareTerminal (.text "x"), .declareTerminal (.text "y"), .setStart (.text "R"),
      .addRule (.text "C") (.text "y"), .addRule (.text "R") (.text "AC"),
      .addRule (.text "A") (.text "x"), .addRule (.text "B") (.text "AA")]
    (by decide +kernel)
  have hword : ∀ c ∈ ['c', 'a'], c ∈ g.terminals := by simp [g]
  have hother : ∀ c ∈ ['y', 'x'], c ∈ h.terminals := by simp [h]
  obtain ⟨chart, chart', text, text', hchart, htable, hchart', htable', hread, hiff⟩ :=
    table_eq_iff_cells_eq hg hh (List.cons_ne_nil _ _) (List.cons_ne_nil _ _)
      (Option.some_ne_none _) (Option.some_ne_none _) hword hother
  have hprinted : g.table ['c', 'a'] = .ok "C\tA\n\n" := by decide +kernel
  have hprinted' : h.table ['y', 'x'] = .ok "C\tA\n\n" := by decide +kernel
  obtain rfl : text = "C\tA\n\n" := Except.ok.inj (htable.symm.trans hprinted)
  obtain rfl : text' = "C\tA\n\n" := Except.ok.inj (htable'.symm.trans hprinted')
  have hrows : (g.chart ['c', 'a']).map (·.rows) ≠ (h.chart ['y', 'x']).map (·.rows) := by
    decide +kernel
  rw [hchart, hchart'] at hrows
  exact ⟨chart, chart', hchart, hchart', fun heq => hrows (congrArg Except.ok heq), hiff.1 rfl,
    hread, htable, htable'⟩

end Grammar

end CykChart
