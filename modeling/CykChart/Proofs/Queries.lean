import CykChart.Proofs.Lookups
import CykChart.Recogniser

/-!
# Queries and what stands in their way

A grammar is asked about a word for a chart, a verdict, a table or a drawing, and a recogniser also
by its own requests. All of them check the same: that there are rules, that the start symbol is set,
and that the word is over declared terminals, in this order. The first check that fails decides the
error of every query; when none fails every query is answered, and from the same chart.

## Main definitions

- `Grammar.Obstacle`: what stands in the way of a query, with the error that reports it.
- `Grammar.Concludes`: how all queries about a word end.

## Main results

- `Grammar.obstacle_or_chart_eq_ok`: a chart is filled unless something stands in the way.
- `Grammar.WellFormed.accepts_iff_mem_getLast?_cells`: the last cell of a chart tells the verdict.
- `Grammar.queries_conclude_alike`: all queries are refused alike or answered alike, and no lookup
  of theirs fails.
-/

namespace CykChart

namespace Grammar

variable {g : Grammar} {word : List Char} {error : QueryError} {chart : Chart}

/-! ## Obstacles -/

/-- What stands in the way of a query about a word. -/
inductive Obstacle (g : Grammar) (word : List Char) : QueryError → Prop where
  /-- There are no rules. -/
  | noRules (hrules : g.rules = []) : Obstacle g word (.notReady .noRules)
  /-- There are rules, but the start symbol is not set. -/
  | noStart (hrules : g.rules ≠ []) (hstart : g.start = none) :
      Obstacle g word (.notReady .noStart)
  /-- The grammar is ready, and behind a part over declared terminals the word has another
  symbol. -/
  | foreignSymbol {symbol : Char} {before after : List Char} (hrules : g.rules ≠ [])
      (hstart : g.start ≠ none) (hword : word = before ++ symbol :: after)
      (hbefore : ∀ c ∈ before, c ∈ g.terminals) (hsymbol : symbol ∉ g.terminals) :
      Obstacle g word (.foreignSymbol word symbol)

/-- A word that is not over the terminals has a first symbol that is none of them. -/
theorem foreign?_bits_eq_some_iff {start symbol : Char} :
    (g.bits start).foreign? word = some symbol ↔
      ∃ before after, word = before ++ symbol :: after ∧ (∀ c ∈ before, c ∈ g.terminals) ∧
        symbol ∉ g.terminals := by
  rw [BitGrammar.foreign?, List.find?_eq_some_iff_append]
  simp only [bits, List.contains_eq_mem, Bool.not_eq_true', decide_eq_false_iff_not,
    Bool.not_not, decide_eq_true_eq]
  constructor
  · rintro ⟨hsymbol, before, after, hword, hbefore⟩
    exact ⟨before, after, hword, hbefore, hsymbol⟩
  · rintro ⟨before, after, hword, hbefore, hsymbol⟩
    exact ⟨hsymbol, before, after, hword, hbefore⟩

/-- A word over the terminals has no such symbol. -/
theorem foreign?_bits_eq_none_iff {start : Char} :
    (g.bits start).foreign? word = none ↔ ∀ c ∈ word, c ∈ g.terminals := by
  simp [BitGrammar.foreign?, bits]

/-- There is no chart because something stands in the way, or there is the one that the grammar
over masks fills. -/
theorem obstacle_or_chart_eq_ok (g : Grammar) (word : List Char) :
    (∃ error, g.Obstacle word error ∧ g.chart word = .error error) ∨
      ∃ start, g.rules ≠ [] ∧ g.start = some start ∧ (∀ c ∈ word, c ∈ g.terminals) ∧
        g.chart word = .ok ((g.bits start).chart word) := by
  -- The checks in their order: rules, start symbol, symbols of the word.
  by_cases hrules : g.rules = []
  · exact .inl ⟨_, .noRules hrules, chart_of_notReady (toBits_of_noRules hrules)⟩
  cases hstart : g.start with
  | none =>
    exact .inl ⟨_, .noStart hrules hstart, chart_of_notReady (toBits_of_noStart hrules hstart)⟩
  | some start =>
    cases hforeign : (g.bits start).foreign? word with
    | some symbol =>
      obtain ⟨before, after, hword, hbefore, hsymbol⟩ := foreign?_bits_eq_some_iff.1 hforeign
      exact .inl ⟨_, .foreignSymbol hrules (by simp [hstart]) hword hbefore hsymbol,
        chart_of_foreign (toBits_eq_ok hrules hstart) hforeign⟩
    | none =>
      have hword := foreign?_bits_eq_none_iff.1 hforeign
      exact .inr ⟨start, hrules, rfl, hword, chart_eq_ok hrules hstart hword⟩

/-- What stands in the way is the error of the query for a chart. -/
theorem Obstacle.chart_eq_error (h : g.Obstacle word error) : g.chart word = .error error := by
  cases h with
  | noRules hrules => exact chart_of_notReady (toBits_of_noRules hrules)
  | noStart hrules hstart => exact chart_of_notReady (toBits_of_noStart hrules hstart)
  | foreignSymbol hrules hstart hword hbefore hsymbol =>
    obtain ⟨start, hstart⟩ := Option.ne_none_iff_exists'.1 hstart
    have hforeign : (g.bits start).foreign? word = some _ :=
      foreign?_bits_eq_some_iff.2 ⟨_, _, hword, hbefore, hsymbol⟩
    exact chart_of_foreign (toBits_eq_ok hrules hstart) hforeign

/-- The query for a chart fails just when something stands in the way, and reports that. -/
theorem chart_eq_error_iff : g.chart word = .error error ↔ g.Obstacle word error := by
  constructor
  · intro h
    rcases g.obstacle_or_chart_eq_ok word with ⟨other, hother, herror⟩ | ⟨start, -, -, -, hchart⟩
    · exact Except.error.inj (h.symm.trans herror) ▸ hother
    · exact absurd (h.symm.trans hchart) (by simp)
  · exact Obstacle.chart_eq_error

/-- A chart of the empty word has no cells. -/
theorem cells_eq_nil_of_chart_nil (h : g.chart [] = .ok chart) : chart.cells = [] := by
  rcases g.obstacle_or_chart_eq_ok [] with ⟨error, -, herror⟩ | ⟨start, -, -, -, hchart⟩
  · exact absurd (h.symm.trans herror) (by simp)
  · rw [Except.ok.inj (h.symm.trans hchart)]
    rfl

/-- A grammar that is not ready stands in the way of queries about any word. -/
theorem exists_obstacle_notReady_iff :
    (∃ missing, g.Obstacle word (.notReady missing)) ↔ g.rules = [] ∨ g.start = none := by
  constructor
  · rintro ⟨missing, hrules | ⟨-, hstart⟩⟩
    · exact .inl hrules
    · exact .inr hstart
  · intro h
    by_cases hrules : g.rules = []
    · exact ⟨_, .noRules hrules⟩
    · exact ⟨_, .noStart hrules (h.resolve_left hrules)⟩

/-- When the grammar is ready, a word with a symbol that is not declared is refused for the first
such symbol. -/
theorem exists_obstacle_foreignSymbol_iff :
    (∃ symbol, g.Obstacle word (.foreignSymbol word symbol)) ↔
      g.rules ≠ [] ∧ g.start ≠ none ∧ ∃ c ∈ word, c ∉ g.terminals := by
  constructor
  · rintro ⟨symbol, _ | _ | ⟨hrules, hstart, hword, -, hsymbol⟩⟩
    refine ⟨hrules, hstart, symbol, ?_, hsymbol⟩
    rw [hword]
    exact List.mem_append_right _ List.mem_cons_self
  · rintro ⟨hrules, hstart, c, hc, hforeign⟩
    obtain ⟨start, hsome⟩ := Option.ne_none_iff_exists'.1 hstart
    -- Among the foreign symbols the search finds the first.
    cases hfirst : (g.bits start).foreign? word with
    | some symbol =>
      obtain ⟨before, after, hword, hbefore, hsymbol⟩ := foreign?_bits_eq_some_iff.1 hfirst
      exact ⟨symbol, .foreignSymbol hrules hstart hword hbefore hsymbol⟩
    | none => exact absurd (foreign?_bits_eq_none_iff.1 hfirst c hc) hforeign

/-! ## Queries -/

/-- All queries about a word end as the one for a chart does: those for a verdict, a table or a
drawing, and the requests of a recogniser, whatever it has recorded. -/
structure Concludes (g : Grammar) (word : List Char) (outcome : Except QueryError Chart) :
    Prop where
  chart : g.chart word = outcome
  accepts : g.accepts word = Chart.accepts <$> outcome
  table : g.table word = Chart.print <$> outcome
  drawing : g.drawing word = Chart.drawing <$> outcome
  requestAccepts : ∀ record, (Recogniser.accepts ⟨g, record⟩ word).1 = Chart.accepts <$> outcome
  requestTable : ∀ record, (Recogniser.table ⟨g, record⟩ word).1 = Chart.print <$> outcome

/-- All queries come down to the chart: the checks that each makes for itself are those that the
chart needs. -/
theorem concludes_iff {outcome : Except QueryError Chart} :
    g.Concludes word outcome ↔ g.chart word = outcome := by
  constructor
  · exact fun h => h.chart
  · rintro rfl
    refine ⟨rfl, g.accepts_eq word, rfl, rfl, fun record => ?_, fun record => ?_⟩
    · rw [Recogniser.accepts_eq]
    · rw [Recogniser.table_eq]

/-- The last cell of a chart is that of the whole word, so it tells the verdict. -/
theorem WellFormed.accepts_iff_mem_getLast?_cells (hg : g.WellFormed) {start : Char}
    (hstart : g.start = some start) (hword : word ≠ []) :
    ((g.bits start).chart word).accepts = true ↔
      ∃ last, ((g.bits start).chart word).cells.getLast? = some last ∧ start ∈ last := by
  obtain ⟨span, hlength⟩ := Nat.exists_eq_succ_of_ne_zero (mt List.length_eq_zero_iff.1 hword)
  -- The last cell and the verdict look at one mask, that of the whole word.
  obtain ⟨mask, hmask⟩ : ∃ mask, mask = ((g.bits start).chart word).mask 0 (span + 1) := ⟨_, rfl⟩
  have hcells : ((g.bits start).chart word).cells.getLast? =
      some ((g.bits start).symbols mask) := by
    rw [Chart.cells, BitGrammar.rows_chart word hlength, ← hmask, List.flatten_concat,
      List.map_append, List.map_singleton, List.getLast?_concat]
    rfl
  have haccepts : ((g.bits start).chart word).accepts = true ↔
      (g.bits start).has mask start = true := by
    have hsize : ((g.bits start).chart word).word.length = span + 1 := hlength
    rw [Chart.accepts, bne_iff_ne, hsize, ← hmask]
    exact BitGrammar.and_bit_ne_zero_iff
  rw [haccepts, hcells]
  have hdeclared : start ∈ (g.bits start).nonterminals :=
    mem_bits_nonterminals.2 (hg.start_mem start hstart)
  have hmem : start ∈ (g.bits start).symbols mask ↔ (g.bits start).has mask start = true :=
    (BitGrammar.mem_symbols_iff hg.bits_nodup).trans (and_iff_right hdeclared)
  simp [hmem]

/-- The queries about a word are refused together, with the error of the first thing that stands in
their way: missing rules, a missing start symbol, or the first symbol of the word that is not
declared. Else they are answered together, from a chart of which every lookup succeeds. The verdict
is that of the chart, which for a nonempty word is whether its last cell has the start symbol; the
chart of the empty word has no cells and does not accept. -/
theorem queries_conclude_alike (hg : g.Reachable) (word : List Char) :
    (∀ error, g.Concludes word (.error error) ↔ g.Obstacle word error) ∧
    ((∃ missing, g.Concludes word (.error (.notReady missing))) ↔
      g.rules = [] ∨ g.start = none) ∧
    ((∃ symbol, g.Concludes word (.error (.foreignSymbol word symbol))) ↔
      g.rules ≠ [] ∧ g.start ≠ none ∧ ∃ c ∈ word, c ∉ g.terminals) ∧
    (∀ before symbol after, g.rules ≠ [] → g.start ≠ none → word = before ++ symbol :: after →
      (∀ c ∈ before, c ∈ g.terminals) → symbol ∉ g.terminals →
      ∃ error, g.Concludes word (.error error) ∧
        error.message = "Word " ++ Text.quoted word ++ " contains " ++ Text.quoted [symbol]
          ++ ", which is not a declared terminal") ∧
    (g.rules ≠ [] → g.start ≠ none → (∀ c ∈ word, c ∈ g.terminals) →
      ∃ start chart, g.start = some start ∧ g.Concludes word (.ok chart) ∧
        (g.checkedBits start).bind (·.checkedChart word) = some chart ∧
        chart.checkedAccepts = some chart.accepts ∧
        chart.checkedDrawing = some chart.drawing ∧
        (word ≠ [] → (chart.accepts = true ↔
          ∃ last, chart.cells.getLast? = some last ∧ start ∈ last)) ∧
        (word = [] → chart.accepts = false ∧ chart.rows = [] ∧ chart.cells = [] ∧
          chart.print = "")) := by
  have hwf := hg.wellFormed
  simp only [concludes_iff, chart_eq_error_iff, implies_true, true_and]
  refine ⟨exists_obstacle_notReady_iff, exists_obstacle_foreignSymbol_iff, ?_, ?_⟩
  · intro before symbol after hrules hstart hword hbefore hsymbol
    exact ⟨_, .foreignSymbol hrules hstart hword hbefore hsymbol, rfl⟩
  · intro hrules hsome hword
    obtain ⟨start, hstart⟩ := Option.ne_none_iff_exists'.1 hsome
    -- The checked twins look up the bit of the start symbol: it has one, being declared.
    have hnumbered : (g.bits start).start ∈ (g.bits start).nonterminals :=
      mem_bits_nonterminals.2 (hwf.start_mem start hstart)
    refine ⟨start, _, hstart, chart_eq_ok hrules hstart hword, ?_,
      BitGrammar.checkedAccepts_chart word hnumbered,
      BitGrammar.checkedDrawing_chart word hnumbered,
      fun hne => hwf.accepts_iff_mem_getLast?_cells hstart hne, ?_⟩
    · rw [hwf.checkedBits_eq]
      exact BitGrammar.checkedChart_eq _ word
    · rintro rfl
      exact ⟨BitGrammar.accepts_chart_nil _, rfl, rfl, rfl⟩

/-- Of a word with two symbols that are not declared the first one is reported, and a word over the
terminals is answered. -/
theorem queries_conclude_alike_foreign :
    let g : Grammar :=
      { nonterminals := ['S']
        terminals := ['a']
        start := some 'S'
        rules := [⟨'S', .terminal 'a'⟩] }
    g.Reachable ∧
      g.Concludes ['a', 'c', 'b'] (.error (.foreignSymbol ['a', 'c', 'b'] 'c')) ∧
      ∃ chart, g.Concludes ['a'] (.ok chart) ∧ chart.checkedAccepts = some true := by
  intro g
  have hg : g.Reachable := .of_edits
    [.declareNonterminal (.text "S"), .declareTerminal (.text "a"), .setStart (.text "S"),
      .addRule (.text "S") (.text "a")]
    (by decide +kernel)
  have hrules : g.rules ≠ [] := List.cons_ne_nil _ _
  have hstart : g.start ≠ none := Option.some_ne_none _
  refine ⟨hg, ?_, ?_⟩
  · refine ((queries_conclude_alike hg ['a', 'c', 'b']).1 _).2 ?_
    have hword : ['a', 'c', 'b'] = ['a'] ++ 'c' :: ['b'] := rfl
    exact .foreignSymbol hrules hstart hword (by simp [g]) (by simp [g])
  · obtain ⟨-, -, -, -, hanswer⟩ := queries_conclude_alike hg ['a']
    obtain ⟨start, chart, -, hchart, -, haccepts, -⟩ := hanswer hrules hstart (by simp [g])
    refine ⟨chart, hchart, haccepts.trans ?_⟩
    have hverdict : g.accepts ['a'] = .ok true := by decide +kernel
    exact congrArg some (Except.ok.inj (hchart.accepts.symm.trans hverdict))

end Grammar

end CykChart
