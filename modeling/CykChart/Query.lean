import CykChart.Chart.Printer

/-!
# Queries

A query asks a grammar about a word. The grammar has to be ready, and the word may hold declared
terminals only; both are checked before any cell is filled, the grammar first. The empty word
passes the check and is never derived.

## Main definitions

- `QueryError`: why a query has no answer.
- `Grammar.chart`: the chart of a word.
- `Grammar.accepts`: whether a word is derived from the start symbol.
- `Grammar.table`: the printed chart.
-/

namespace CykChart

/-- Why a query has no answer. -/
inductive QueryError where
  /-- The grammar is not ready. -/
  | notReady (missing : NotReady)
  /-- The word holds a symbol that is not a declared terminal. -/
  | foreignSymbol (word : List Char) (symbol : Char)
  deriving DecidableEq, Repr

/-- The wording of a query error. -/
def QueryError.message : QueryError → String
  | .notReady missing => missing.message
  | .foreignSymbol word symbol =>
    "Word " ++ Text.quoted word ++ " contains " ++ Text.quoted [symbol]
      ++ ", which is not a declared terminal"

namespace BitGrammar

/-- The first symbol of a word that is not a declared terminal. -/
def foreign? (g : BitGrammar) (word : List Char) : Option Char :=
  word.find? (!g.terminals.contains ·)

/-- Refuse a word with a symbol that is not a declared terminal. -/
def checkWord (g : BitGrammar) (word : List Char) : Except QueryError Unit :=
  match g.foreign? word with
  | some symbol => .error (.foreignSymbol word symbol)
  | none => .ok ()

end BitGrammar

namespace Grammar

/-- The grammar over masks that a query runs on. -/
def compiled (g : Grammar) : Except QueryError BitGrammar :=
  g.toBits.mapError .notReady

/-- The chart of a word. -/
def chart (g : Grammar) (word : List Char) : Except QueryError Chart := do
  let bits ← g.compiled
  bits.checkWord word
  return bits.chart word

/-- Whether a word is derived from the start symbol. No chart is filled for the empty word. -/
def accepts (g : Grammar) (word : List Char) : Except QueryError Bool := do
  let bits ← g.compiled
  bits.checkWord word
  if word = [] then
    return false
  return (bits.chart word).accepts

/-- The printed chart of a word. -/
def table (g : Grammar) (word : List Char) : Except QueryError String :=
  Chart.print <$> g.chart word

end Grammar

end CykChart
