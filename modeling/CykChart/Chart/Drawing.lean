import CykChart.Dot
import CykChart.Query

/-!
# Drawn charts

A chart is drawn as a graph with a node for each cell and a rank for each length. A node shows the
nonterminals of its cell, and in the rank of single symbols the symbol above them; an empty cell
is white, and the cell of the whole word is green when it holds the start symbol. From the two
parts of a cut an edge leads to each cell that some rule joins from it.

## Main definitions

- `Chart.drawing`: the graph of a chart.
- `Rendering`: a drawing handed to the renderer.
- `Grammar.drawing`: the graph of the chart of a word.
-/

namespace CykChart

namespace Chart

/-- The identifier of the node of a cell. -/
def nodeName (offset span : Nat) : String :=
  "c" ++ toString offset ++ "_" ++ toString span

/-- The nonterminals of a cell between braces, or the sign of the empty set. -/
def cellLabel (symbols : List Char) : String :=
  match symbols with
  | [] => "∅"
  | _ => "\x7b" ++ String.intercalate "," (symbols.map Char.toString) ++ "\x7d"

/-- What the node of a cell shows. -/
def label (chart : Chart) (offset span mask : Nat) : String :=
  let symbols := cellLabel (chart.grammar.symbols mask)
  match span, chart.word[offset]? with
  | 1, some symbol => symbol.toString ++ "\n" ++ symbols
  | _, _ => symbols

/-- The colour of the node of a cell. -/
def colour (chart : Chart) (span mask : Nat) : String :=
  if mask = 0 then "white"
  else if span = chart.word.length ∧ mask &&& chart.grammar.bit chart.grammar.start ≠ 0 then
    "lightgreen"
  else "lightblue"

/-- The node of a cell. -/
def node (chart : Chart) (offset span mask : Nat) : Dot.Node :=
  ⟨nodeName offset span,
    [⟨"label", chart.label offset span mask⟩, ⟨"fillcolor", chart.colour span mask⟩]⟩

/-- The nodes, rank by rank. -/
def ranks (chart : Chart) : List (List Dot.Node) :=
  chart.rows.mapIdx fun index row =>
    row.mapIdx fun offset mask => chart.node offset (index + 1) mask

/-- The edges from the two parts of a cut, when some rule joins them. -/
def cutEdges (chart : Chart) (offset span first : Nat) : List Dot.Edge :=
  if chart.grammar.joinAt chart.rows offset span first = 0 then []
  else
    [⟨nodeName offset first, nodeName offset span⟩,
      ⟨nodeName (offset + first) (span - first), nodeName offset span⟩]

/-- The edges into all cells, by length, offset and cut. -/
def edges (chart : Chart) : List Dot.Edge :=
  let size := chart.word.length
  (List.range' 2 (size - 1)).flatMap fun span =>
    (List.range (size + 1 - span)).flatMap fun offset =>
      (BitGrammar.cuts span).flatMap fun first => chart.cutEdges offset span first

/-- The graph of a chart. -/
def drawing (chart : Chart) : Dot.Graph where
  name := "CYK"
  attributes :=
    [⟨"bgcolor", "white"⟩, ⟨"dpi", "300"⟩, ⟨"fontname", "Arial"⟩, ⟨"fontsize", "14"⟩,
      ⟨"label", "CYK table for '" ++ String.ofList chart.word ++ "'"⟩, ⟨"labelloc", "t"⟩,
      ⟨"nodesep", "0.4"⟩, ⟨"pad", "0.5"⟩, ⟨"rankdir", "BT"⟩, ⟨"ranksep", "0.8"⟩,
      ⟨"splines", "true"⟩]
  nodeDefaults :=
    [⟨"color", "black"⟩, ⟨"fillcolor", "lightblue"⟩, ⟨"fontname", "Arial"⟩, ⟨"fontsize", "14"⟩,
      ⟨"penwidth", "2"⟩, ⟨"shape", "box"⟩, ⟨"style", "filled"⟩]
  edgeDefaults :=
    [⟨"arrowsize", "0.8"⟩, ⟨"color", "black"⟩, ⟨"fontname", "Arial"⟩, ⟨"fontsize", "12"⟩,
      ⟨"penwidth", "1.5"⟩]
  ranks := chart.ranks
  edges := chart.edges

end Chart

/-- The graph of the chart of a word. -/
def Grammar.drawing (g : Grammar) (word : List Char) : Except QueryError Dot.Graph :=
  Chart.drawing <$> g.chart word

/-- A drawing handed to the renderer. -/
structure Rendering where
  /-- The file to write. -/
  filename : String
  /-- Whether to show the picture. -/
  view : Bool
  /-- Whether to remove the source once the picture is there. -/
  cleanup : Bool
  /-- The source of the graph. -/
  source : String
  deriving DecidableEq, Repr

namespace Rendering

/-- The file that a drawing goes to when no other is named. -/
def defaultFilename : String :=
  "cyk_table"

/-- A graph for a file. The source is always removed. -/
def ofGraph (filename : String) (view : Bool) (graph : Dot.Graph) : Rendering :=
  { filename, view, cleanup := true, source := graph.source }

end Rendering

end CykChart
