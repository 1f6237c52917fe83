import CykChart.Proofs.Cells
import CykChart.Proofs.Lookups

/-!
# Charts of subwords

The mask of a stretch is filled from the symbols of the stretch alone. When a word stands between
two others, its whole chart therefore stands in the chart of the longer word, each cell further on
by the length of what comes before. One chart answers the question about every word that it
contains.

## Main results

- `BitGrammar.mask_append`: the masks of a word inside a longer one.
- `Grammar.chart_of_subword`: the rows of the two charts, and the verdict on the subword.
-/

namespace CykChart

namespace BitGrammar

variable (g : BitGrammar) (before word after : List Char) {offset span : Nat}

/-- A single symbol has the same rules wherever it stands. -/
theorem mask_append_one (hoffset : offset < word.length) :
    (g.chart (before ++ word ++ after)).mask (before.length + offset) 1 =
      (g.chart word).mask offset 1 := by
  have hfront : before.length + offset < (before ++ word).length := by
    rw [List.length_append]
    omega
  have hlength : before.length + offset < (before ++ word ++ after).length := by
    rw [List.length_append]
    omega
  -- The symbol behind the prefix is that of the word.
  have hsymbol : (before ++ word ++ after)[before.length + offset] = word[offset] := by
    rw [List.getElem_append_left hfront, List.getElem_append_right (Nat.le_add_right _ _)]
    simp only [Nat.add_sub_cancel_left]
  rw [mask_one hlength, mask_one hoffset, hsymbol]

/-- The masks of a word stand in the chart of a longer word, further on by what comes before. -/
theorem mask_append (hspan : 1 ≤ span) (hstretch : offset + span ≤ word.length) :
    (g.chart (before ++ word ++ after)).mask (before.length + offset) span =
      (g.chart word).mask offset span := by
  -- By induction on the length: both parts of a cut are shorter and are moved equally far.
  induction span using Nat.strong_induction_on generalizing offset with
  | _ span ih =>
    rcases Nat.lt_or_ge span 2 with hone | htwo
    · obtain rfl : span = 1 := by omega
      exact mask_append_one g before word after (by omega)
    · have hwhole : before.length + offset + span ≤ (before ++ word ++ after).length := by
        rw [List.length_append, List.length_append]
        omega
      rw [mask_of_two_le htwo hwhole, mask_of_two_le htwo hstretch]
      refine List.foldl_ext _ _ 0 fun mask first hfirst => ?_
      rw [cuts, List.mem_range'_1] at hfirst
      have hleft : (g.chart (before ++ word ++ after)).mask (before.length + offset) first =
          (g.chart word).mask offset first :=
        ih first (by omega) (by omega) (by omega)
      have hright : (g.chart (before ++ word ++ after)).mask (before.length + offset + first)
          (span - first) = (g.chart word).mask (offset + first) (span - first) := by
        rw [Nat.add_assoc]
        exact ih (span - first) (by omega) (by omega) (by omega)
      exact congrArg (mask ||| ·)
        (congrArg₂ (fun left right : Nat => g.combine left right) hleft hright)

end BitGrammar

namespace Grammar

variable {g : Grammar} {start : Char} {before word after : List Char}

/-- The cell of a subword in the chart of a longer word has the start symbol exactly when the
subword is accepted. -/
theorem WellFormed.accepts_iff_mem_symbols_mask (hg : g.WellFormed) (hstart : g.start = some start)
    (hword : ∀ c ∈ word, c ∈ g.terminals) (hne : word ≠ []) :
    ((g.bits start).chart word).accepts = true ↔
      start ∈ (g.bits start).symbols
        (((g.bits start).chart (before ++ word ++ after)).mask before.length word.length) := by
  have hpos : 1 ≤ word.length := List.length_pos_iff.2 hne
  -- The stretch of the part in the whole has the mask that the part has by itself.
  have hmask : ((g.bits start).chart (before ++ word ++ after)).mask (before.length + 0)
      word.length = ((g.bits start).chart word).mask 0 word.length :=
    (g.bits start).mask_append before word after hpos (Nat.zero_add _).le
  rw [Nat.add_zero] at hmask
  rw [hmask, hg.mem_symbols_mask_iff start hword hpos (by omega), stretch_all,
    hg.accepts_chart_iff hstart hword]

/-- A reachable grammar that is ready fills for a word over its terminals a chart that contains
those of all its subwords. Each row of the chart of a subword stands in the row of the same length,
behind the cells of the stretches that begin before the subword. A nonempty subword is accepted
exactly when its cell in the chart of the whole word lists the start symbol. -/
theorem chart_of_subword (hg : g.Reachable) (hrules : g.rules ≠ []) (hstart : g.start = some start)
    (hword : ∀ c ∈ before ++ word ++ after, c ∈ g.terminals) :
    ∃ whole part, g.chart (before ++ word ++ after) = .ok whole ∧ g.chart word = .ok part ∧
      (∀ offset span : Nat, 1 ≤ span → offset + span ≤ word.length →
        ∃ mask, checkedMaskAt whole.rows (before.length + offset) span = some mask ∧
          checkedMaskAt part.rows offset span = some mask) ∧
      (word ≠ [] → ∃ verdict cell, g.accepts word = .ok verdict ∧
        whole.cell before.length word.length = .ok cell ∧ (verdict = true ↔ start ∈ cell)) := by
  have hpart : ∀ c ∈ word, c ∈ g.terminals := fun c hc =>
    hword c (List.mem_append_left _ (List.mem_append_right _ hc))
  have hlength : before.length + word.length ≤ (before ++ word ++ after).length := by
    rw [List.length_append, List.length_append]
    omega
  refine ⟨_, _, chart_eq_ok hrules hstart hword, chart_eq_ok hrules hstart hpart, ?_, ?_⟩
  · intro offset span hspan hstretch
    refine ⟨_, ?_, (g.bits start).checkedMaskAt_chart word hspan hstretch⟩
    -- A mask depends on its stretch alone, which stands in both words.
    rw [← (g.bits start).mask_append before word after hspan hstretch]
    exact (g.bits start).checkedMaskAt_chart _ hspan (by omega)
  · intro hne
    have hpos : 1 ≤ word.length := List.length_pos_iff.2 hne
    exact ⟨_, _, accepts_eq_ok hrules hstart hpart, Chart.cell_eq_ok hpos hlength,
      hg.wellFormed.accepts_iff_mem_symbols_mask hstart hpart hne⟩

/-- The words of pairs `ab`: the chart of `babb`, which is no such word, lists the start symbol for
the pair inside it, with the mask that the chart of the pair has. -/
theorem chart_of_subword_pair :
    let g : Grammar :=
      { nonterminals := ['S', 'B', 'A']
        terminals := ['a', 'b']
        start := some 'S'
        rules := [⟨'S', .pair 'A' 'B'⟩, ⟨'S', .pair 'S' 'S'⟩, ⟨'A', .terminal 'a'⟩,
          ⟨'B', .terminal 'b'⟩] }
    g.accepts ['b', 'a', 'b', 'b'] = .ok false ∧
      ∃ whole part cell, g.chart ['b', 'a', 'b', 'b'] = .ok whole ∧
        g.chart ['a', 'b'] = .ok part ∧
        checkedMaskAt whole.rows 1 2 = checkedMaskAt part.rows 0 2 ∧
        whole.cell 1 2 = .ok cell ∧ 'S' ∈ cell := by
  intro g
  have hg : g.Reachable := .of_edits
    [.declareNonterminal (.text "S"), .declareNonterminal (.text "B"),
      .declareNonterminal (.text "A"), .declareTerminal (.text "a"), .declareTerminal (.text "b"),
      .setStart (.text "S"), .addRule (.text "S") (.text "AB"), .addRule (.text "S") (.text "SS"),
      .addRule (.text "A") (.text "a"), .addRule (.text "B") (.text "b")]
    (by decide +kernel)
  have hword : ∀ c ∈ ['b'] ++ ['a', 'b'] ++ ['b'], c ∈ g.terminals := by simp [g]
  obtain ⟨whole, part, hwhole, hpart, hrows, hverdict⟩ :=
    chart_of_subword hg (List.cons_ne_nil _ _) rfl hword
  obtain ⟨mask, hmask, hmask'⟩ := hrows 0 2 (by decide) le_rfl
  obtain ⟨verdict, cell, haccepts, hcell, hiff⟩ := hverdict (List.cons_ne_nil _ _)
  have htrue : g.accepts ['a', 'b'] = .ok true := by decide +kernel
  exact ⟨by decide +kernel, whole, part, cell, hwhole, hpart, hmask.trans hmask'.symm, hcell,
    hiff.1 (Except.ok.inj (haccepts.symm.trans htrue))⟩

end Grammar

end CykChart
