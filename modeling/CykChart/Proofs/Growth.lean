import CykChart.Proofs.Cells

/-!
# Charts of grammars that grow

Apart from removing everything, operations on a grammar only append: symbols, start symbols and
rules that are there stay there, and refused operations have no effect. A longer list of rules lets
every cell list at least what it did. Only a new rule can add to a cell. A new nonterminal moves the
bits of those behind it, but not what the cells list.

## Main definitions

- `Grammar.Extends`: a grammar that has what another has, in the same places.

## Main results

- `Grammar.extends_performAll`: histories that do not remove everything extend the grammar.
- `Grammar.rules_performAll`: only rules that are accepted change the rules.
- `Grammar.chart_grows`: what the charts before and after such a history have in common.
-/

namespace CykChart

namespace Grammar

variable {g middle next : Grammar} {edit : Edit} {edits : List Edit}

/-! ## Operations that append -/

/-- A grammar has the symbols and rules of another in the same places, and it has a start symbol if
the other one does. -/
structure Extends (g next : Grammar) : Prop where
  /-- Nonterminals keep their places. -/
  nonterminals_prefix : g.nonterminals <+: next.nonterminals
  /-- Terminals keep their places. -/
  terminals_prefix : g.terminals <+: next.terminals
  /-- Rules keep their places. -/
  rules_prefix : g.rules <+: next.rules
  /-- A start symbol may be replaced but not removed. -/
  start_ne_none : g.start ≠ none → next.start ≠ none

/-- A grammar extends itself. -/
theorem Extends.refl (g : Grammar) : g.Extends g :=
  ⟨List.prefix_rfl, List.prefix_rfl, List.prefix_rfl, id⟩

/-- What extends an extension extends the grammar that was extended first. -/
theorem Extends.trans (hfirst : g.Extends middle) (hsecond : middle.Extends next) :
    g.Extends next where
  nonterminals_prefix := hfirst.nonterminals_prefix.trans hsecond.nonterminals_prefix
  terminals_prefix := hfirst.terminals_prefix.trans hsecond.terminals_prefix
  rules_prefix := hfirst.rules_prefix.trans hsecond.rules_prefix
  start_ne_none hstart := hsecond.start_ne_none (hfirst.start_ne_none hstart)

/-- Every step but the one that removes everything appends to the grammar. -/
theorem Step.extends (h : g.Step edit next) (hkeeps : edit ≠ .clear) : g.Extends next := by
  cases h with
  | declareNonterminal => exact ⟨List.prefix_append _ _, List.prefix_rfl, List.prefix_rfl, id⟩
  | declareTerminal => exact ⟨List.prefix_rfl, List.prefix_append _ _, List.prefix_rfl, id⟩
  | setStart =>
    exact ⟨List.prefix_rfl, List.prefix_rfl, List.prefix_rfl, fun _ => Option.some_ne_none _⟩
  | addRule => exact ⟨List.prefix_rfl, List.prefix_rfl, List.prefix_append _ _, id⟩
  | clear => exact absurd rfl hkeeps

/-- A step that neither adds a rule nor removes everything leaves the rules as they are. -/
theorem Step.rules_eq (h : g.Step edit next) (hkeeps : edit ≠ .clear)
    (hadds : ∀ head body, edit ≠ .addRule head body) : next.rules = g.rules := by
  cases h with
  | declareNonterminal => rfl
  | declareTerminal => rfl
  | setStart => rfl
  | addRule => exact absurd rfl (hadds _ _)
  | clear => exact absurd rfl hkeeps

/-! ## Histories that append -/

/-- The accepted operations of a history stand in it, in their order. -/
theorem accepted_sublist (g : Grammar) (edits : List Edit) : (g.accepted edits).Sublist edits := by
  induction edits generalizing g with
  | nil => exact List.Sublist.refl _
  | cons edit rest ih =>
    rw [accepted]
    split
    · exact (ih _).cons_cons edit
    · exact (ih g).cons edit

/-- Accepted operations that do not clear extend the grammar. -/
theorem extends_of_applyAll (h : g.applyAll edits = .ok next) (hkeeps : .clear ∉ edits) :
    g.Extends next := by
  -- By induction on the operations, each of which is a step.
  induction edits generalizing g with
  | nil => exact Except.ok.inj h ▸ Extends.refl g
  | cons edit rest ih =>
    obtain ⟨middle, hedit, hrest⟩ := applyAll_cons_eq_ok_iff.1 h
    have hstep : g.Extends middle :=
      (apply_eq_ok_iff.1 hedit).extends (List.ne_of_not_mem_cons hkeeps).symm
    exact hstep.trans (ih hrest (List.not_mem_of_not_mem_cons hkeeps))

/-- Accepted operations that neither clear nor add a rule keep the rules. -/
theorem rules_eq_of_applyAll (h : g.applyAll edits = .ok next) (hkeeps : .clear ∉ edits)
    (hadds : ∀ head body, .addRule head body ∉ edits) : next.rules = g.rules := by
  induction edits generalizing g with
  | nil => exact congrArg rules (Except.ok.inj h).symm
  | cons edit rest ih =>
    obtain ⟨middle, hedit, hrest⟩ := applyAll_cons_eq_ok_iff.1 h
    -- One edit that neither clears nor adds a rule keeps the rules.
    have hstep : middle.rules = g.rules :=
      (apply_eq_ok_iff.1 hedit).rules_eq (List.ne_of_not_mem_cons hkeeps).symm
        fun head body => (List.ne_of_not_mem_cons (hadds head body)).symm
    have hrules : next.rules = middle.rules :=
      ih hrest (List.not_mem_of_not_mem_cons hkeeps) fun head body =>
        List.not_mem_of_not_mem_cons (hadds head body)
    exact hrules.trans hstep

/-- A history that does not remove everything extends the grammar. -/
theorem extends_performAll (g : Grammar) (hkeeps : .clear ∉ edits) :
    g.Extends (g.performAll edits) :=
  extends_of_applyAll (applyAll_accepted g edits) fun hmem =>
    hkeeps ((accepted_sublist g edits).subset hmem)

/-- A history in which no rule is accepted leaves the rules as they are. -/
theorem rules_performAll (g : Grammar) (hkeeps : .clear ∉ edits)
    (hadds : ∀ head body, .addRule head body ∉ g.accepted edits) :
    (g.performAll edits).rules = g.rules :=
  rules_eq_of_applyAll (applyAll_accepted g edits)
    (fun hmem => hkeeps ((accepted_sublist g edits).subset hmem)) hadds

/-! ## Charts before and after -/

/-- Histories that do not remove everything only let the cells of a chart grow. A reachable grammar
that is ready stays ready, and a word over its terminals has a chart and a table before and after.
Each cell lists afterwards at least what it listed before. If no rule was accepted on the way, cells
and tables are the same, whatever was declared. If the start symbol is the same, the word is still
accepted when it was. -/
theorem chart_grows {word : List Char} (hg : g.Reachable) (hrules : g.rules ≠ [])
    (hready : g.start ≠ none) (hword : ∀ c ∈ word, c ∈ g.terminals) (hkeeps : .clear ∉ edits) :
    ∃ chart chart' text text', g.chart word = .ok chart ∧
      (g.performAll edits).chart word = .ok chart' ∧ g.table word = .ok text ∧
      (g.performAll edits).table word = .ok text' ∧
      (∀ offset span : Nat, 1 ≤ span → offset + span ≤ word.length →
        ∃ cell cell', chart.cell offset span = .ok cell ∧ chart'.cell offset span = .ok cell' ∧
          cell ⊆ cell') ∧
      ((∀ head body, .addRule head body ∉ g.accepted edits) →
        (∀ offset span : Int, chart.cell offset span = chart'.cell offset span) ∧ text = text') ∧
      ((g.performAll edits).start = g.start → g.accepts word = .ok true →
        (g.performAll edits).accepts word = .ok true) := by
  have hwf := hg.wellFormed
  have hwf' := (hg.performAll edits).wellFormed
  -- The grammar is still ready, and the word is still over its terminals.
  have hextends := g.extends_performAll hkeeps
  obtain ⟨start, hstart⟩ := Option.ne_none_iff_exists'.1 hready
  obtain ⟨start', hstart'⟩ := Option.ne_none_iff_exists'.1 (hextends.start_ne_none hready)
  have hsubset : g.rules ⊆ (g.performAll edits).rules := hextends.rules_prefix.subset
  have hrules' : (g.performAll edits).rules ≠ [] := hextends.rules_prefix.ne_nil hrules
  have hword' : ∀ c ∈ word, c ∈ (g.performAll edits).terminals := fun c hc =>
    hextends.terminals_prefix.subset (hword c hc)
  refine ⟨_, _, _, _, chart_eq_ok hrules hstart hword, chart_eq_ok hrules' hstart' hword',
    table_eq_ok hrules hstart hword, table_eq_ok hrules' hstart' hword', ?_, ?_, ?_⟩
  · intro offset span hspan hstretch
    exact ⟨_, _, Chart.cell_eq_ok hspan hstretch, Chart.cell_eq_ok hspan hstretch,
      hwf.symbols_mask_subset hwf' start start' hsubset hword hword' hspan hstretch⟩
  · intro hadds
    -- Without an accepted rule both grammars have the same rules.
    have hmem : ∀ rule, rule ∈ g.rules ↔ rule ∈ (g.performAll edits).rules := fun rule => by
      rw [g.rules_performAll hkeeps hadds]
    exact ⟨hwf.cell_chart_eq hwf' start start' hmem hword hword',
      hwf.print_chart_eq hwf' start start' hmem hword hword'⟩
  · intro hsame haccepts
    obtain rfl : start' = start := Option.some.inj (hstart'.symm.trans (hsame.trans hstart))
    rw [accepts_eq_ok hrules hstart hword] at haccepts
    rw [accepts_eq_ok hrules' hstart' hword']
    exact congrArg Except.ok
      (hwf.accepts_chart_mono hwf' hsubset hstart hstart' hword hword' (Except.ok.inj haccepts))

/-- A nonterminal that comes between the others moves their bits, and three operations are refused,
one of them for a rule that is there already: the cells and the table of `ac` are the same, and the
word is still accepted. -/
theorem chart_grows_renumbered :
    let g : Grammar :=
      { nonterminals := ['S', 'C', 'A']
        terminals := ['a', 'c']
        start := some 'S'
        rules := [⟨'S', .pair 'A' 'C'⟩, ⟨'A', .terminal 'a'⟩, ⟨'C', .terminal 'c'⟩] }
    let edits : List Edit :=
      [.declareNonterminal (.text "B"), .declareNonterminal (.text "B"),
        .addRule (.text "S") (.text "AC"), .setStart (.text "D"), .declareTerminal (.text "b")]
    ∃ chart chart' text, g.chart ['a', 'c'] = .ok chart ∧
      (g.performAll edits).chart ['a', 'c'] = .ok chart' ∧ chart.rows ≠ chart'.rows ∧
      (∀ offset span : Int, chart.cell offset span = chart'.cell offset span) ∧
      g.table ['a', 'c'] = .ok text ∧ (g.performAll edits).table ['a', 'c'] = .ok text ∧
      (g.performAll edits).accepts ['a', 'c'] = .ok true := by
  intro g edits
  have hg : g.Reachable := .of_edits
    [.declareNonterminal (.text "S"), .declareNonterminal (.text "C"),
      .declareNonterminal (.text "A"), .declareTerminal (.text "a"), .declareTerminal (.text "c"),
      .setStart (.text "S"), .addRule (.text "S") (.text "AC"), .addRule (.text "A") (.text "a"),
      .addRule (.text "C") (.text "c")]
    (by decide +kernel)
  have hword : ∀ c ∈ ['a', 'c'], c ∈ g.terminals := by simp [g]
  have hkeeps : .clear ∉ edits := by simp [edits]
  obtain ⟨chart, chart', text, text', hchart, hchart', htable, htable', -, hsame, haccepts⟩ :=
    chart_grows hg (List.cons_ne_nil _ _) (Option.some_ne_none _) hword hkeeps
  have hnone : (g.accepted edits).all fun | .addRule _ _ => false | _ => true := by decide +kernel
  obtain ⟨hcells, rfl⟩ := hsame fun head body hmem =>
    Bool.false_ne_true (List.all_eq_true.1 hnone _ hmem)
  have hrows : (g.chart ['a', 'c']).map (·.rows) ≠
      ((g.performAll edits).chart ['a', 'c']).map (·.rows) := by
    decide +kernel
  rw [hchart, hchart'] at hrows
  exact ⟨chart, chart', text, hchart, hchart', fun heq => hrows (congrArg Except.ok heq), hcells,
    htable, htable', haccepts (by decide +kernel) (by decide +kernel)⟩

end Grammar

end CykChart
