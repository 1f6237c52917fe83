import CykChart.Chart.Basic

/-!
# Printed charts

A chart is printed as a table with one line for each length, the shortest first. The cells of a
line are separated by tabs. A cell is the text of its nonterminals by code point, and so an empty
cell is an empty field.
-/

namespace CykChart.Chart

/-- A row of cells as a line. -/
def printRow (g : BitGrammar) (row : List Nat) : String :=
  String.intercalate "\t" (row.map fun (mask : Nat) => String.ofList (g.symbols mask)) ++ "\n"

/-- The table of a chart. -/
def print (chart : Chart) : String :=
  String.join (chart.rows.map (printRow chart.grammar))

end CykChart.Chart
