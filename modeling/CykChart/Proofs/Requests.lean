import CykChart.Recogniser

/-!
# Requests and charts

A query for a verdict and the two requests of a recogniser each check the grammar and the word for
themselves, and the verdict about the empty word takes no chart. All of them come out as the chart
of the word would have it, which for the empty word has no cells and does not accept. A request
leaves the grammar alone, and the recogniser records the cells of that chart.

## Main definitions

- `Recogniser.recording`: a recogniser that records a chart.

## Main results

- `Grammar.accepts_eq`: the verdict is that of the chart.
- `Recogniser.accepts_eq`, `Recogniser.table_eq`: requests answer and record by the chart.
-/

namespace CykChart

/-- The chart of the empty word does not accept. -/
theorem BitGrammar.accepts_chart_nil (g : BitGrammar) : (g.chart []).accepts = false := by
  simp [Chart.accepts, Chart.mask, chart, rowsUpTo, maskAt]

namespace Grammar

variable {g : Grammar} {word : List Char}

/-! ## The checks -/

/-- A grammar that is ready runs queries over its masks. -/
theorem compiled_of_toBits {bits : BitGrammar} (h : g.toBits = .ok bits) :
    g.compiled = .ok bits := by
  rw [compiled, h]
  rfl

/-- A grammar that is not ready has no charts. -/
theorem chart_of_notReady {missing : NotReady} (h : g.toBits = .error missing) :
    g.chart word = .error (.notReady missing) := by
  rw [chart, compiled, h]
  rfl

/-- There is no chart of a word with a symbol that is not a declared terminal. -/
theorem chart_of_foreign {bits : BitGrammar} {symbol : Char} (h : g.toBits = .ok bits)
    (hforeign : bits.foreign? word = some symbol) :
    g.chart word = .error (.foreignSymbol word symbol) := by
  rw [chart, compiled_of_toBits h]
  simp [BitGrammar.checkWord, hforeign, bind, Except.bind]

/-- All other words have the chart that the grammar over masks fills. -/
theorem chart_of_toBits {bits : BitGrammar} (h : g.toBits = .ok bits)
    (hforeign : bits.foreign? word = none) : g.chart word = .ok (bits.chart word) := by
  rw [chart, compiled_of_toBits h]
  simp [BitGrammar.checkWord, hforeign, bind, Except.bind, pure, Except.pure]

/-! ## The verdict -/

/-- Whether a word is derived is what its chart tells, also where no chart is filled. -/
theorem accepts_eq (g : Grammar) (word : List Char) :
    g.accepts word = Chart.accepts <$> g.chart word := by
  unfold accepts chart
  cases g.compiled with
  | error error => rfl
  | ok bits =>
    simp only [bind, Except.bind]
    cases bits.checkWord word with
    | error error => rfl
    | ok _ =>
      -- The empty word passes the checks and is answered at once.
      by_cases hword : word = []
      · subst hword
        exact congrArg Except.ok bits.accepts_chart_nil.symm
      · simp only [hword, if_false]
        rfl

end Grammar

namespace Recogniser

/-! ## Requests -/

/-- The recogniser after a request whose chart, if there is one, is given. -/
def recording (r : Recogniser) (chart : Except QueryError Chart) : Recogniser :=
  match chart with
  | .ok chart => { r with record := chart.cells }
  | .error _ => { r with record := [] }

/-- Recording leaves the grammar alone. -/
theorem grammar_recording (r : Recogniser) (outcome : Except QueryError Chart) :
    (r.recording outcome).grammar = r.grammar := by
  cases outcome <;> rfl

/-- The request for a verdict answers and records by the chart of the word. -/
theorem accepts_eq (r : Recogniser) (word : List Char) :
    r.accepts word =
      (Chart.accepts <$> r.grammar.chart word, r.recording (r.grammar.chart word)) := by
  unfold accepts Grammar.chart
  dsimp only
  cases r.grammar.compiled with
  | error error => rfl
  | ok bits =>
    simp only [bind, Except.bind]
    cases bits.checkWord word with
    | error error => rfl
    | ok _ =>
      by_cases hword : word = []
      · -- Nothing is recorded, and the chart has no cells that could be.
        subst hword
        exact Prod.ext (congrArg Except.ok bits.accepts_chart_nil.symm) rfl
      · simp only [hword, if_false]
        rfl

/-- The request for a table answers and records by the chart of the word. -/
theorem table_eq (r : Recogniser) (word : List Char) :
    r.table word = (Chart.print <$> r.grammar.chart word, r.recording (r.grammar.chart word)) := by
  unfold table
  dsimp only
  cases r.grammar.chart word <;> rfl

/-- The request for a verdict is answered as the query is. -/
theorem accepts_fst (r : Recogniser) (word : List Char) :
    (r.accepts word).1 = r.grammar.accepts word := by
  rw [accepts_eq, Grammar.accepts_eq]

/-- The request for a table is answered as the query is. -/
theorem table_fst (r : Recogniser) (word : List Char) :
    (r.table word).1 = r.grammar.table word := by
  rw [table_eq]
  rfl

/-- The request for a verdict leaves the grammar alone. -/
theorem grammar_accepts (r : Recogniser) (word : List Char) :
    (r.accepts word).2.grammar = r.grammar := by
  rw [accepts_eq, grammar_recording]

/-- The request for a table leaves the grammar alone. -/
theorem grammar_table (r : Recogniser) (word : List Char) :
    (r.table word).2.grammar = r.grammar := by
  rw [table_eq, grammar_recording]

end Recogniser

end CykChart
