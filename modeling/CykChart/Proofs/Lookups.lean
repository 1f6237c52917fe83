import CykChart.Chart.Drawing
import CykChart.Proofs.Recognition

/-!
# Every lookup succeeds

Numbers of nonterminals, cells of rows and symbols of words are looked up by name or by place, and
the definitions of charts and drawings have a default for a lookup that finds nothing. Each of them
is written again below with lookups that may fail. For grammars over masks and for charts that were
filled none fails, so no default is ever taken: whatever a rule mentions has a number, and the two
parts of a cut lie within rows that are there already.

## Main definitions

- `Grammar.checkedBits`: a grammar over masks, numbers looked up.
- `BitGrammar.checkedChart`: a chart, cells looked up.
- `Chart.checkedAccepts`, `Chart.checkedDrawing`: the verdict and the graph of a chart, with all
  that they look up.

## Main results

- `Grammar.WellFormed.checkedBits_eq`, `BitGrammar.checkedChart_eq`: neither fails.
- `BitGrammar.checkedAccepts_chart`, `BitGrammar.checkedDrawing_chart`: nor do these, on charts that
  were filled.
-/

namespace CykChart

/-! ## Numbers of nonterminals -/

/-- The bit of a symbol that is numbered. -/
def checkedBit (numbering : List Char) (symbol : Char) : Option Nat :=
  (numbering.idxOf? symbol).map (1 <<< ·)

/-- The number of a symbol is found when the symbol is among those that are numbered. -/
theorem checkedBit_eq {numbering : List Char} {symbol : Char} (h : symbol ∈ numbering) :
    checkedBit numbering symbol = some (bitIn numbering symbol) := by
  obtain ⟨index, hindex⟩ := Option.isSome_iff_exists.1 (List.isSome_idxOf?.2 h)
  rw [checkedBit, bitIn, List.idxOf_eq_getD_idxOf?, hindex]
  rfl

namespace Grammar

variable {g : Grammar} {numbering : List Char} {start : Char}

/-- The union of the bits of members. -/
def checkedMask (numbering members : List Char) : Option Nat :=
  members.foldlM (fun mask member => (mask ||| ·) <$> checkedBit numbering member) 0

/-- The masks of the heads of each terminal that has rules. -/
def checkedUnary (g : Grammar) (numbering : List Char) : Option (List (Char × Nat)) :=
  (sortBy symbolLe g.terminals).filterMapM fun terminal =>
    match g.headsOf terminal with
    | [] => some none
    | heads => (fun mask => some (terminal, mask)) <$> checkedMask numbering heads

/-- A rule over bits, for a rule with a pair as its body. The head is looked up in any case. -/
def checkedRule (numbering : List Char) (head : Char) (body : Body) : Option (Option BitRule) := do
  let headBit ← checkedBit numbering head
  match body with
  | .terminal _ => return none
  | .pair left right =>
    let leftBit ← checkedBit numbering left
    let rightBit ← checkedBit numbering right
    return some ⟨leftBit, rightBit, headBit⟩

/-- The rules with pairs over bits. -/
def checkedBinary (g : Grammar) (numbering : List Char) : Option (List BitRule) :=
  g.nonterminals.flatMapM fun head => (g.bodies head).filterMapM (checkedRule numbering head)

/-- A grammar over masks, given its start symbol. -/
def checkedBits (g : Grammar) (start : Char) : Option BitGrammar := do
  let numbering := sortBy symbolLe g.nonterminals
  let unary ← g.checkedUnary numbering
  let binary ← g.checkedBinary numbering
  return { nonterminals := numbering, terminals := g.terminals, start, unary, binary }

/-- The numbers of numbered symbols are all found. -/
theorem checkedMask_eq {members : List Char} (h : members ⊆ numbering) :
    checkedMask numbering members = some (maskIn numbering members) := by
  refine foldlM_eq_some (fun member hmember mask => ?_) 0
  rw [checkedBit_eq (h hmember)]
  rfl

/-- Every head of a terminal is numbered. -/
theorem checkedUnary_eq (h : g.nonterminals ⊆ numbering) :
    g.checkedUnary numbering = some (g.unaryMasks numbering) := by
  refine filterMapM_eq_some fun terminal _ => ?_
  have hsub : g.headsOf terminal ⊆ numbering := fun head hhead => h (mem_headsOf.1 hhead).1
  cases hheads : g.headsOf terminal with
  | nil => rfl
  | cons head rest =>
    simp only [checkedMask_eq (hheads ▸ hsub)]
    rfl

/-- A rule of a well-formed grammar mentions nonterminals only that have a number. -/
theorem WellFormed.checkedBinary_eq (hg : g.WellFormed) (h : g.nonterminals ⊆ numbering) :
    g.checkedBinary numbering = some (g.bitRules numbering) := by
  refine flatMapM_eq_some fun head hhead => filterMapM_eq_some fun body hbody => ?_
  rw [checkedRule, checkedBit_eq (h hhead)]
  cases body with
  | terminal symbol => rfl
  | pair left right =>
    obtain ⟨hleft, hright⟩ : left ∈ g.nonterminals ∧ right ∈ g.nonterminals :=
      hg.body_mem _ (mem_bodies.1 hbody)
    simp only [Option.bind_eq_bind, Option.bind_some, checkedBit_eq (h hleft),
      checkedBit_eq (h hright)]
    rfl

/-- Every nonterminal that is looked up when a grammar is put over masks has a number. -/
theorem WellFormed.checkedBits_eq (hg : g.WellFormed) (start : Char) :
    g.checkedBits start = some (g.bits start) := by
  have hnumbered : g.nonterminals ⊆ sortBy symbolLe g.nonterminals := fun c hc => mem_sortBy.2 hc
  rw [checkedBits, checkedUnary_eq hnumbered]
  simp only [Option.bind_eq_bind, Option.bind_some, hg.checkedBinary_eq hnumbered]
  rfl

end Grammar

/-! ## Cells -/

/-- The mask of a cell. -/
def checkedMaskAt (rows : List (List Nat)) (offset span : Nat) : Option Nat := do
  let row ← rows[span - 1]?
  row[offset]?

namespace BitGrammar

variable (g : BitGrammar) (word : List Char)

/-- What the rules join from the cut of a stretch after its first `first` symbols. -/
def checkedJoinAt (rows : List (List Nat)) (offset span first : Nat) : Option Nat := do
  let left ← checkedMaskAt rows offset first
  let right ← checkedMaskAt rows (offset + first) (span - first)
  return g.combine left right

/-- The mask of a stretch of two symbols or more. -/
def checkedJoinedMask (rows : List (List Nat)) (offset span : Nat) : Option Nat :=
  (cuts span).foldlM (fun mask first => (mask ||| ·) <$> g.checkedJoinAt rows offset span first) 0

/-- The row of one length, from the rows of shorter ones. -/
def checkedRow (rows : List (List Nat)) (span : Nat) : Option (List Nat) :=
  if span = 1 then some (word.map g.heads)
  else (List.range (word.length + 1 - span)).mapM fun offset =>
    g.checkedJoinedMask rows offset span

/-- The rows of the lengths up to a bound. -/
def checkedRowsUpTo : Nat → Option (List (List Nat))
  | 0 => some []
  | span + 1 => do
    let rows ← checkedRowsUpTo span
    let row ← g.checkedRow word rows (span + 1)
    return rows ++ [row]

/-- The filled chart of a word. -/
def checkedChart : Option Chart :=
  (fun rows => ⟨word, g, rows⟩) <$> g.checkedRowsUpTo word word.length

/-- A row is filled from the rows of shorter stretches and not changed later. -/
theorem getElem?_rowsUpTo {index bound : Nat} (h : index < bound) :
    (g.rowsUpTo word bound)[index]? =
      some (g.row word (g.rowsUpTo word index) (index + 1)) := by
  have hlength : index < (g.rowsUpTo word bound).length := by
    rw [length_rowsUpTo]
    exact h
  rw [List.getElem?_eq_getElem hlength, ← getD_rowsUpTo g word h, List.getD_eq_getElem _ _ hlength]

/-- There is a cell for each stretch that is no longer than the bound and lies within the word. -/
theorem checkedMaskAt_rowsUpTo {offset span bound : Nat} (hspan : 1 ≤ span) (hbound : span ≤ bound)
    (hstretch : offset + span ≤ word.length) :
    checkedMaskAt (g.rowsUpTo word bound) offset span =
      some (maskAt (g.rowsUpTo word bound) offset span) := by
  have hoffset : offset < (g.row word (g.rowsUpTo word (span - 1)) span).length := by
    rw [length_row]
    omega
  rw [checkedMaskAt, getElem?_rowsUpTo g word (by omega), Nat.sub_add_cancel hspan,
    maskAt_rowsUpTo g word hspan hbound, List.getD_eq_getElem _ _ hoffset]
  exact List.getElem?_eq_getElem hoffset

/-- The mask of a stretch within the word is there. -/
theorem checkedMaskAt_chart {offset span : Nat} (hspan : 1 ≤ span)
    (hstretch : offset + span ≤ word.length) :
    checkedMaskAt (g.chart word).rows offset span = some ((g.chart word).mask offset span) :=
  g.checkedMaskAt_rowsUpTo word hspan (by omega) hstretch

/-- Both parts of a proper cut have a cell. -/
theorem checkedJoinAt_rowsUpTo {offset span first bound : Nat} (hfirst : first ∈ cuts span)
    (hbound : span ≤ bound + 1) (hstretch : offset + span ≤ word.length) :
    g.checkedJoinAt (g.rowsUpTo word bound) offset span first =
      some (g.joinAt (g.rowsUpTo word bound) offset span first) := by
  rw [cuts, List.mem_range'_1] at hfirst
  rw [checkedJoinAt, checkedMaskAt_rowsUpTo g word (by omega) (by omega) (by omega)]
  simp only [Option.bind_eq_bind, Option.bind_some]
  rw [checkedMaskAt_rowsUpTo g word (by omega) (by omega) (by omega)]
  rfl

/-- Filling a row only looks at rows and offsets that are there. -/
theorem checkedRow_rowsUpTo (span : Nat) :
    g.checkedRow word (g.rowsUpTo word span) (span + 1) =
      some (g.row word (g.rowsUpTo word span) (span + 1)) := by
  rw [checkedRow, row]
  split
  next => rfl
  next =>
    refine mapM_eq_some fun offset hoffset => ?_
    rw [List.mem_range] at hoffset
    -- The stretch lies within the word, so each of its cuts has both cells.
    refine foldlM_eq_some (fun first hfirst mask => ?_) 0
    rw [g.checkedJoinAt_rowsUpTo word hfirst le_rfl (by omega)]
    rfl

/-- So filling all rows never fails. -/
theorem checkedRowsUpTo_eq (bound : Nat) :
    g.checkedRowsUpTo word bound = some (g.rowsUpTo word bound) := by
  induction bound with
  | zero => rfl
  | succ span ih =>
    rw [checkedRowsUpTo, ih]
    simp only [Option.bind_eq_bind, Option.bind_some, checkedRow_rowsUpTo]
    rfl

/-- Every cell that is looked up when a chart is filled is there already. -/
theorem checkedChart_eq : g.checkedChart word = some (g.chart word) := by
  rw [checkedChart, checkedRowsUpTo_eq]
  rfl

end BitGrammar

/-! ## Verdicts and drawings -/

namespace Chart

/-- Whether the start symbol derives the word, from the first cell of the last row. -/
def checkedAccepts (chart : Chart) : Option Bool :=
  match chart.rows.getLast? with
  | none => some false
  | some last => do
    let mask ← last.head?
    let bit ← checkedBit chart.grammar.nonterminals chart.grammar.start
    return mask &&& bit != 0

/-- What the node of a cell shows. -/
def checkedLabel (chart : Chart) (offset span mask : Nat) : Option String :=
  let symbols := cellLabel (chart.grammar.symbols mask)
  if span = 1 then do
    let symbol ← chart.word[offset]?
    return symbol.toString ++ "\n" ++ symbols
  else some symbols

/-- The colour of the node of a cell. The start symbol is looked up for the cell of the whole
word. -/
def checkedColour (chart : Chart) (span mask : Nat) : Option String := do
  let derived ←
    if span = chart.word.length then
      (mask &&& · != 0) <$> checkedBit chart.grammar.nonterminals chart.grammar.start
    else some false
  return if mask = 0 then "white" else if derived then "lightgreen" else "lightblue"

/-- The node of a cell. -/
def checkedNode (chart : Chart) (offset span mask : Nat) : Option Dot.Node := do
  let label ← chart.checkedLabel offset span mask
  let colour ← chart.checkedColour span mask
  return ⟨nodeName offset span, [⟨"label", label⟩, ⟨"fillcolor", colour⟩]⟩

/-- The nodes, rank by rank. -/
def checkedRanks (chart : Chart) : Option (List (List Dot.Node)) :=
  chart.rows.zipIdx.mapM fun (row, index) =>
    row.zipIdx.mapM fun (mask, offset) => chart.checkedNode offset (index + 1) mask

/-- The edges from the two parts of a cut, when some rule joins them. -/
def checkedCutEdges (chart : Chart) (offset span first : Nat) : Option (List Dot.Edge) := do
  let joined ← chart.grammar.checkedJoinAt chart.rows offset span first
  return if joined = 0 then []
    else
      [⟨nodeName offset first, nodeName offset span⟩,
        ⟨nodeName (offset + first) (span - first), nodeName offset span⟩]

/-- The edges into all cells, by length, offset and cut. -/
def checkedEdges (chart : Chart) : Option (List Dot.Edge) :=
  let size := chart.word.length
  (List.range' 2 (size - 1)).flatMapM fun span =>
    (List.range (size + 1 - span)).flatMapM fun offset =>
      (BitGrammar.cuts span).flatMapM fun first => chart.checkedCutEdges offset span first

/-- The graph of a chart. -/
def checkedDrawing (chart : Chart) : Option Dot.Graph := do
  let ranks ← chart.checkedRanks
  let edges ← chart.checkedEdges
  return { chart.drawing with ranks, edges }

end Chart

namespace BitGrammar

variable {g : BitGrammar} (word : List Char)

/-- The last row of a chart has one cell, that of the whole word. -/
theorem rows_chart {span : Nat} (hlength : word.length = span + 1) :
    (g.chart word).rows = g.rowsUpTo word span ++ [[(g.chart word).mask 0 (span + 1)]] := by
  have hrow : (g.row word (g.rowsUpTo word span) (span + 1)).length = 1 := by
    rw [length_row]
    omega
  -- One stretch has the length of the word, so the last row is a single mask.
  obtain ⟨mask, hmask⟩ := List.length_eq_one_iff.1 hrow
  have hcell : (g.chart word).mask 0 (span + 1) = mask := by
    rw [Chart.mask, chart, hlength, maskAt_rowsUpTo g word (by omega) le_rfl, Nat.add_sub_cancel,
      hmask]
    rfl
  rw [hcell, ← hmask, chart, hlength]
  rfl

/-- The verdict is read off the only cell of the last row, which every word but the empty one
has. -/
theorem checkedAccepts_chart (hstart : g.start ∈ g.nonterminals) :
    (g.chart word).checkedAccepts = some (g.chart word).accepts := by
  cases hlength : word.length with
  | zero =>
    obtain rfl := List.length_eq_zero_iff.1 hlength
    rw [BitGrammar.accepts_chart_nil]
    rfl
  | succ span =>
    -- The last row is not empty, and the start symbol has a bit.
    have hbit : checkedBit (g.chart word).grammar.nonterminals (g.chart word).grammar.start =
        some ((g.chart word).grammar.bit (g.chart word).grammar.start) := checkedBit_eq hstart
    have hsize : (g.chart word).word.length = span + 1 := hlength
    rw [Chart.checkedAccepts, rows_chart word hlength, List.getLast?_concat, Chart.accepts, hsize,
      hbit]
    rfl

/-- The bit of the start symbol is found when a node is coloured. -/
theorem checkedColour_chart (hstart : g.start ∈ g.nonterminals) (span mask : Nat) :
    (g.chart word).checkedColour span mask = some ((g.chart word).colour span mask) := by
  have hbit : checkedBit (g.chart word).grammar.nonterminals (g.chart word).grammar.start =
      some ((g.chart word).grammar.bit (g.chart word).grammar.start) := checkedBit_eq hstart
  rw [Chart.checkedColour, Chart.colour, hbit]
  by_cases hspan : span = (g.chart word).word.length <;> simp [hspan]

/-- The symbol at an offset is found when a node is labelled. -/
theorem checkedLabel_chart {offset : Nat} (hoffset : offset < word.length) (span mask : Nat) :
    (g.chart word).checkedLabel offset span mask =
      some ((g.chart word).label offset span mask) := by
  have hsymbol : (g.chart word).word[offset]? = some word[offset] :=
    List.getElem?_eq_getElem hoffset
  by_cases hspan : span = 1
  · simp [Chart.checkedLabel, Chart.label, hspan, hsymbol]
  · simp [Chart.checkedLabel, Chart.label, hspan]

/-- The nodes of the first row show the symbols of the word, and no other node looks one up. -/
theorem checkedNode_chart (hstart : g.start ∈ g.nonterminals) {offset : Nat}
    (hoffset : offset < word.length) (span mask : Nat) :
    (g.chart word).checkedNode offset span mask = some ((g.chart word).node offset span mask) := by
  rw [Chart.checkedNode, checkedLabel_chart word hoffset, checkedColour_chart word hstart]
  rfl

/-- Drawing the nodes only looks at what is there. -/
theorem checkedRanks_chart (hstart : g.start ∈ g.nonterminals) :
    (g.chart word).checkedRanks = some (g.chart word).ranks := by
  rw [Chart.ranks, List.mapIdx_eq_zipIdx_map]
  refine mapM_eq_some fun (row, index) hrow => ?_
  dsimp only
  rw [List.mapIdx_eq_zipIdx_map]
  refine mapM_eq_some fun (mask, offset) hmask => ?_
  -- A row is no longer than the word, so its offsets are places of the word.
  have hrow' : (g.rowsUpTo word word.length)[index]? = some row :=
    List.mk_mem_zipIdx_iff_getElem?.1 hrow
  have hmask' : row[offset]? = some mask := List.mk_mem_zipIdx_iff_getElem?.1 hmask
  have hindex : index < word.length := by
    simpa using (List.getElem?_eq_some_iff.1 hrow').1
  rw [getElem?_rowsUpTo g word hindex, Option.some.injEq] at hrow'
  have hoffset : offset < row.length := (List.getElem?_eq_some_iff.1 hmask').1
  rw [← hrow', length_row] at hoffset
  exact checkedNode_chart word hstart (by omega) (index + 1) mask

/-- So does drawing the edges. -/
theorem checkedEdges_chart : (g.chart word).checkedEdges = some (g.chart word).edges := by
  refine flatMapM_eq_some fun span hspan => flatMapM_eq_some fun offset hoffset =>
    flatMapM_eq_some fun first hfirst => ?_
  rw [List.mem_range'_1] at hspan
  rw [List.mem_range] at hoffset
  have hjoin : g.checkedJoinAt (g.chart word).rows offset span first =
      some (g.joinAt (g.chart word).rows offset span first) := by
    have hlength : (g.chart word).word.length = word.length := rfl
    exact g.checkedJoinAt_rowsUpTo word hfirst (by omega) (by omega)
  rw [Chart.checkedCutEdges, show (g.chart word).grammar = g from rfl, hjoin]
  rfl

/-- Every cell and symbol that is looked up when a filled chart is drawn is there. -/
theorem checkedDrawing_chart (hstart : g.start ∈ g.nonterminals) :
    (g.chart word).checkedDrawing = some (g.chart word).drawing := by
  rw [Chart.checkedDrawing, checkedRanks_chart word hstart, checkedEdges_chart]
  rfl

end BitGrammar

end CykChart
