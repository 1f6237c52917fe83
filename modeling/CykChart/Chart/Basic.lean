import CykChart.BitGrammar
import CykChart.Raising
import CykChart.Text.Quoted

/-!
# Charts

The chart of a word has a cell for each of its nonempty stretches. The cell of the stretch of
length `span` at `offset` holds the nonterminals that derive it: for one symbol the heads of its
rules, and for a longer stretch what the rules join from any cut into two shorter ones. Cells are
filled by increasing length, one row for each length.

## Main definitions

- `Chart`: a word with the cells over it.
- `BitGrammar.chart`: the filled chart of a word.
- `Chart.cell`: the nonterminals of a cell.
- `Missing`, `Missing.raised`: why there is nothing to be looked up, and what is raised then.
- `Chart.lookup`: how a call that asks for a cell ends.
- `Chart.accepts`: whether the start symbol derives the word.
-/

namespace CykChart

/-- A chart over a word. -/
structure Chart where
  /-- The word. -/
  word : List Char
  /-- The grammar that filled the cells. -/
  grammar : BitGrammar
  /-- The masks of the cells: the row of each length, the shortest first, by offset. -/
  rows : List (List Nat)
  deriving DecidableEq, Repr

/-- A mask among rows of cells, zero where there is no cell. -/
def maskAt (rows : List (List Nat)) (offset span : Nat) : Nat :=
  (rows.getD (span - 1) []).getD offset 0

namespace BitGrammar

/-- What the rules join from the cut of a stretch after its first `first` symbols. -/
def joinAt (g : BitGrammar) (rows : List (List Nat)) (offset span first : Nat) : Nat :=
  g.combine (maskAt rows offset first) (maskAt rows (offset + first) (span - first))

/-- The proper cuts of a stretch, by the length of the first part. -/
def cuts (span : Nat) : List Nat :=
  List.range' 1 (span - 1)

/-- The mask of a stretch of two symbols or more, from the rows of shorter ones. -/
def joinedMask (g : BitGrammar) (rows : List (List Nat)) (offset span : Nat) : Nat :=
  (cuts span).foldl (fun mask first => mask ||| g.joinAt rows offset span first) 0

/-- The row of one length, from the rows of shorter ones. -/
def row (g : BitGrammar) (word : List Char) (rows : List (List Nat)) (span : Nat) : List Nat :=
  -- A single symbol has no cut; its cell comes from the rules with terminals.
  if span = 1 then word.map g.heads
  else (List.range (word.length + 1 - span)).map fun offset => g.joinedMask rows offset span

/-- The rows of the lengths up to a bound. -/
def rowsUpTo (g : BitGrammar) (word : List Char) : Nat → List (List Nat)
  | 0 => []
  | span + 1 =>
    let rows := g.rowsUpTo word span
    rows ++ [g.row word rows (span + 1)]

/-- A row has a cell for each stretch of its length. -/
@[simp]
theorem length_row (g : BitGrammar) (word : List Char) (rows : List (List Nat)) (span : Nat) :
    (g.row word rows span).length = word.length + 1 - span := by
  unfold row
  split <;> simp_all

/-- There is a row for each length up to the bound. -/
@[simp]
theorem length_rowsUpTo (g : BitGrammar) (word : List Char) (bound : Nat) :
    (g.rowsUpTo word bound).length = bound := by
  induction bound with
  | zero => rfl
  | succ span ih => simp [rowsUpTo, ih]

/-- The filled chart of a word. -/
def chart (g : BitGrammar) (word : List Char) : Chart :=
  ⟨word, g, g.rowsUpTo word word.length⟩

end BitGrammar

/-- Why there is nothing to be looked up. -/
inductive Missing where
  /-- The chart has no cell for such a stretch. -/
  | cell (offset span : Int) (word : List Char)
  /-- The grammar has no bit for such a symbol. -/
  | bit
  deriving DecidableEq, Repr

/-- The wording of what is missing. -/
def Missing.message : Missing → String
  | .cell offset span word =>
    "No cell for offset " ++ toString offset ++ ", span " ++ toString span ++ " in "
      ++ Text.quoted word
  | .bit => "tuple.index(x): x not in tuple"

/-- The integers that the wording of what is missing shows. -/
def Missing.numbers : Missing → List Int
  | .cell offset span _ => [offset, span]
  | .bit => []

/-- What is raised when something is missing. -/
def Missing.raised (limit : DigitLimit) (missing : Missing) : Raised Missing :=
  limit.raise missing missing.numbers

/-- The bit of the nonterminal that a text names. -/
def BitGrammar.lookupBit (g : BitGrammar) (symbol : List Char) : Except Missing Nat :=
  match g.bit? symbol with
  | some bit => .ok bit
  | none => .error .bit

namespace Chart

/-- The mask of a cell, zero where there is no cell. -/
def mask (chart : Chart) (offset span : Nat) : Nat :=
  maskAt chart.rows offset span

/-- The nonterminals of a cell. The stretch has to be nonempty and to lie within the word. -/
def cell (chart : Chart) (offset span : Int) : Except Missing (List Char) :=
  if span < 1 ∨ offset < 0 ∨ offset + span > chart.word.length then
    .error (.cell offset span chart.word)
  else .ok (chart.grammar.symbols (chart.mask offset.toNat span.toNat))

/-- How a call that asks for a cell ends: with its nonterminals, or with what is raised. -/
def lookup (limit : DigitLimit) (chart : Chart) (offset span : Int) :
    Except (Raised Missing) (List Char) :=
  (chart.cell offset span).mapError (Missing.raised limit)

/-- The nonterminals of all cells, row by row. -/
def cells (chart : Chart) : List (List Char) :=
  chart.rows.flatten.map fun (mask : Nat) => chart.grammar.symbols mask

/-- Whether the start symbol derives the word. The empty word has no cell and is never derived. -/
def accepts (chart : Chart) : Bool :=
  chart.mask 0 chart.word.length &&& chart.grammar.bit chart.grammar.start != 0

end Chart

end CykChart
