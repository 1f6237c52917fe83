import CykChart.Grammar.Builder
import CykChart.Query

/-!
# Recognisers

A recogniser is a grammar that remembers the cells of the last chart it filled on request. Every
request forgets the old cells first, so the record is empty after a request without answer, and
after one about the empty word. Operations on the grammar keep the record, except that clearing
the grammar clears it too.

## Main definitions

- `Recogniser`: a grammar with its record.
- `Recogniser.apply`, `Recogniser.perform`, `Recogniser.call`: operations on the grammar.
- `Recogniser.accepts`, `Recogniser.table`: the two requests, with the recogniser after them.
-/

namespace CykChart

/-- A grammar with the cells of the last chart filled on request. -/
structure Recogniser where
  /-- The grammar. -/
  grammar : Grammar := {}
  /-- The nonterminals of the cells, row by row. -/
  record : List (List Char) := []
  deriving DecidableEq, Repr

namespace Recogniser

/-- The recogniser after an operation on its grammar, or why it is refused. -/
def apply (r : Recogniser) (edit : Edit) : Except Refusal Recogniser :=
  match edit, r.grammar.apply edit with
  | _, .error refusal => .error refusal
  | .clear, .ok grammar => .ok { grammar, record := [] }
  | _, .ok grammar => .ok { r with grammar }

/-- The recogniser after an operation on its grammar, which has no effect when it is refused. -/
def perform (r : Recogniser) (edit : Edit) : Recogniser :=
  match r.apply edit with
  | .ok next => next
  | .error _ => r

/-- The recogniser after a history of operations on its grammar. -/
def performAll (r : Recogniser) (edits : List Edit) : Recogniser :=
  edits.foldl perform r

/-- How a call of an operation on its grammar ends: with the recogniser after it, or with what is
raised. -/
def call (limit : DigitLimit) (r : Recogniser) (edit : Edit) :
    Except (Raised Refusal) Recogniser :=
  (r.apply edit).mapError (Refusal.raised limit)

/-- Request whether a word is derived. The empty word is answered without a chart. -/
def accepts (r : Recogniser) (word : List Char) : Except QueryError Bool × Recogniser :=
  -- The old cells are forgotten before anything can fail.
  let cleared := { r with record := [] }
  match cleared.grammar.compiled with
  | .error error => (.error error, cleared)
  | .ok bits =>
    match bits.checkWord word with
    | .error error => (.error error, cleared)
    | .ok () =>
      if word = [] then (.ok false, cleared)
      else
        let chart := bits.chart word
        (.ok chart.accepts, { cleared with record := chart.cells })

/-- Request the printed chart of a word. -/
def table (r : Recogniser) (word : List Char) : Except QueryError String × Recogniser :=
  let cleared := { r with record := [] }
  match cleared.grammar.chart word with
  | .error error => (.error error, cleared)
  | .ok chart => (.ok chart.print, { cleared with record := chart.cells })

end Recogniser

end CykChart
