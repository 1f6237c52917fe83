import CykChart.Proofs.Masks
import CykChart.Proofs.Reachability
import CykChart.Proofs.Requests
import CykChart.Proofs.Rewriting
import CykChart.Query

/-!
# Charts decide derivability

The rows of a chart grow without change: the row of a length is the same whatever bound the chart is
filled to. The masks of a chart therefore satisfy one recursion, in which a stretch of several
symbols is joined from its cuts, and derivations satisfy the same one. By induction on the length of
the stretch each cell holds exactly the nonterminals that derive it.

## Main definitions

- `stretch`: a stretch of a word, by offset and length.

## Main results

- `BitGrammar.maskAt_one`, `BitGrammar.maskAt_of_two_le`: the recursion for masks.
- `Grammar.WellFormed.has_maskAt_iff_derives`: cells hold what derives their stretch.
- `Grammar.mem_cell_iff_yields`: charts of reachable grammars decide rewriting, cell by cell.
-/

namespace CykChart

/-- The stretch of a word that has a given length and offset. -/
def stretch (word : List Char) (offset span : Nat) : List Char :=
  (word.drop offset).take span

/-- A stretch of length one is the symbol at its offset. -/
theorem stretch_one {word : List Char} {offset : Nat} (h : offset < word.length) :
    stretch word offset 1 = [word[offset]] := by
  rw [stretch, List.drop_eq_getElem_cons h, List.take_succ_cons, List.take_zero]

/-- The longest stretch is the word. -/
theorem stretch_all (word : List Char) : stretch word 0 word.length = word := by
  rw [stretch, List.drop_zero, List.take_length]

/-- A stretch within the word has the length asked for. -/
theorem length_stretch {word : List Char} {offset span : Nat} (h : offset + span ≤ word.length) :
    (stretch word offset span).length = span := by
  rw [stretch, List.length_take, List.length_drop]
  omega

/-- A cut divides a stretch into two. -/
theorem stretch_append (word : List Char) {offset span first : Nat} (h : first ≤ span) :
    stretch word offset first ++ stretch word (offset + first) (span - first) =
      stretch word offset span := by
  obtain ⟨second, rfl⟩ := Nat.exists_eq_add_of_le h
  rw [stretch, stretch, stretch, Nat.add_sub_cancel_left, ← List.drop_drop, List.take_add]

namespace BitGrammar

variable (g : BitGrammar) (word : List Char)

/-! ## The recursion for masks -/

/-- The row of a length does not depend on the bound that the rows are filled to. -/
theorem getD_rowsUpTo {index bound : Nat} (h : index < bound) :
    (g.rowsUpTo word bound).getD index [] = g.row word (g.rowsUpTo word index) (index + 1) := by
  induction bound with
  | zero => exact absurd h (Nat.not_lt_zero _)
  | succ bound ih =>
    rw [rowsUpTo]
    -- The row that is filled last is new, and every other one was there before.
    rcases Nat.lt_succ_iff_lt_or_eq.1 h with hlt | rfl
    · rw [List.getD_append _ _ _ _ (by rw [length_rowsUpTo]; exact hlt), ih hlt]
    · rw [List.getD_append_right _ _ _ _ (by rw [length_rowsUpTo]), length_rowsUpTo, Nat.sub_self]
      rfl

/-- A row is filled once, and later rows do not change it. -/
theorem maskAt_rowsUpTo {offset span bound : Nat} (hspan : 1 ≤ span) (hbound : span ≤ bound) :
    maskAt (g.rowsUpTo word bound) offset span =
      (g.row word (g.rowsUpTo word (span - 1)) span).getD offset 0 := by
  rw [maskAt, getD_rowsUpTo g word (by omega), Nat.sub_add_cancel hspan]

/-- A single symbol has the mask of its heads. -/
theorem maskAt_one {offset bound : Nat} (hbound : 1 ≤ bound) (hoffset : offset < word.length) :
    maskAt (g.rowsUpTo word bound) offset 1 = g.heads word[offset] := by
  rw [maskAt_rowsUpTo g word le_rfl hbound, row, if_pos rfl,
    List.getD_eq_getElem _ _ (by rw [List.length_map]; exact hoffset), List.getElem_map]

/-- The mask of a longer stretch is joined from the masks of its cuts. -/
theorem maskAt_of_two_le {offset span bound : Nat} (hspan : 2 ≤ span) (hbound : span ≤ bound)
    (hstretch : offset + span ≤ word.length) :
    maskAt (g.rowsUpTo word bound) offset span =
      (cuts span).foldl
        (fun mask first => mask ||| g.joinAt (g.rowsUpTo word bound) offset span first) 0 := by
  have hrow : g.row word (g.rowsUpTo word (span - 1)) span =
      (List.range (word.length + 1 - span)).map fun i =>
        g.joinedMask (g.rowsUpTo word (span - 1)) i span := by
    rw [row, if_neg (by omega)]
  rw [maskAt_rowsUpTo g word (by omega) hbound, hrow,
    List.getD_eq_getElem _ _ (by rw [List.length_map, List.length_range]; omega),
    List.getElem_map, List.getElem_range, joinedMask]
  -- Both parts of a cut are shorter, so their rows are among those filled before.
  refine List.foldl_ext _ _ 0 fun mask first hfirst => ?_
  obtain ⟨hlow, hhigh⟩ : 1 ≤ first ∧ first < span := by
    rw [cuts, List.mem_range'_1] at hfirst
    omega
  have hsame : ∀ {i s : Nat}, 1 ≤ s → s ≤ span - 1 →
      maskAt (g.rowsUpTo word (span - 1)) i s = maskAt (g.rowsUpTo word bound) i s := by
    intro i s hs hle
    rw [maskAt_rowsUpTo g word hs hle, maskAt_rowsUpTo g word hs (by omega)]
  rw [joinAt, joinAt, hsame hlow (by omega), hsame (by omega) (by omega)]

end BitGrammar

/-- A cell within the triangle lists the nonterminals of its mask. -/
theorem Chart.cell_eq_ok {chart : Chart} {offset span : Nat} (hspan : 1 ≤ span)
    (hstretch : offset + span ≤ chart.word.length) :
    chart.cell offset span = .ok (chart.grammar.symbols (chart.mask offset span)) := by
  have hinside :
      ¬ ((span : Int) < 1 ∨ (offset : Int) < 0 ∨ (offset : Int) + span > chart.word.length) := by
    omega
  rw [cell, if_neg hinside, Int.toNat_natCast, Int.toNat_natCast]

namespace Grammar

variable {g : Grammar} {start head : Char} {word : List Char}

/-! ## Cells and derivations -/

/-- A single symbol is derived by a rule with it as body. -/
theorem derives_singleton_iff {symbol : Char} :
    g.Derives head [symbol] ↔ ⟨head, .terminal symbol⟩ ∈ g.rules := by
  rw [derives_iff]
  constructor
  · rintro (⟨t, ht, hrule⟩ | ⟨left, right, first, second, hcut, -, hfirst, hsecond⟩)
    · rw [List.singleton_inj.1 ht]
      exact hrule
    · -- Two words that are not empty are together longer than one symbol.
      have hlength := congrArg List.length hcut
      have hposFirst := List.length_pos_iff.2 hfirst.ne_nil
      have hposSecond := List.length_pos_iff.2 hsecond.ne_nil
      rw [List.length_append, List.length_singleton] at hlength
      omega
  · exact fun hrule => Or.inl ⟨symbol, rfl, hrule⟩

/-- A longer stretch is derived by a rule with a pair and a proper cut. -/
theorem derives_stretch_iff {offset span : Nat} (hspan : 2 ≤ span)
    (hstretch : offset + span ≤ word.length) :
    g.Derives head (stretch word offset span) ↔
      ∃ first ∈ BitGrammar.cuts span, ∃ left right, ⟨head, .pair left right⟩ ∈ g.rules ∧
        g.Derives left (stretch word offset first) ∧
        g.Derives right (stretch word (offset + first) (span - first)) := by
  have hlength := length_stretch hstretch
  constructor
  · intro h
    rcases derives_iff.1 h with
      ⟨symbol, hsymbol, -⟩ | ⟨left, right, first, second, hcut, hrule, hfirst, hsecond⟩
    -- A terminal rule derives one symbol, and the stretch has two at least.
    · rw [hsymbol, List.length_singleton] at hlength
      omega
    · -- The word of the left symbol tells where the stretch is cut.
      rw [hcut, List.length_append] at hlength
      have hposFirst := List.length_pos_iff.2 hfirst.ne_nil
      have hposSecond := List.length_pos_iff.2 hsecond.ne_nil
      have hparts := hcut.symm.trans (stretch_append word (show first.length ≤ span by omega)).symm
      obtain ⟨hleft, hright⟩ := List.append_inj hparts (length_stretch (by omega)).symm
      refine ⟨first.length, ?_, left, right, hrule, hleft ▸ hfirst, hright ▸ hsecond⟩
      rw [BitGrammar.cuts, List.mem_range'_1]
      omega
  · rintro ⟨first, hfirst, left, right, hrule, hleft, hright⟩
    rw [BitGrammar.cuts, List.mem_range'_1] at hfirst
    rw [← stretch_append word (show first ≤ span by omega)]
    exact .pair hrule hleft hright

/-- The cell of a stretch holds exactly the nonterminals that derive it. -/
theorem WellFormed.has_maskAt_iff_derives (hg : g.WellFormed) (start : Char)
    (hword : ∀ c ∈ word, c ∈ g.terminals) {offset span bound : Nat} (hspan : 1 ≤ span)
    (hbound : span ≤ bound) (hstretch : offset + span ≤ word.length)
    (hhead : head ∈ g.nonterminals) :
    (g.bits start).has (maskAt ((g.bits start).rowsUpTo word bound) offset span) head = true ↔
      g.Derives head (stretch word offset span) := by
  -- Both parts of a cut are shorter than the stretch; their offsets and heads are arbitrary.
  induction span using Nat.strong_induction_on generalizing offset head with
  | _ span ih =>
    rcases Nat.lt_or_ge span 2 with hone | htwo
    · obtain rfl : span = 1 := by omega
      have hoffset : offset < word.length := by omega
      rw [BitGrammar.maskAt_one _ word hbound hoffset, stretch_one hoffset, derives_singleton_iff]
      exact has_heads_iff (hword _ (List.getElem_mem hoffset)) hhead
    · rw [BitGrammar.maskAt_of_two_le _ word htwo hbound hstretch, BitGrammar.has_foldl_or_iff,
        derives_stretch_iff htwo hstretch]
      refine exists_congr fun first => and_congr_right fun hfirst => ?_
      rw [BitGrammar.cuts, List.mem_range'_1] at hfirst
      rw [BitGrammar.joinAt, hg.has_combine_iff]
      refine exists_congr fun left => exists_congr fun right => and_congr_right fun hrule => ?_
      obtain ⟨hleft, hright⟩ : left ∈ g.nonterminals ∧ right ∈ g.nonterminals :=
        hg.body_mem _ hrule
      rw [ih first (by omega) (by omega) (by omega) (by omega) hleft,
        ih (span - first) (by omega) (by omega) (by omega) (by omega) hright]

/-! ## Queries -/

/-- A query about a word over declared terminals is answered by a grammar that is ready. -/
theorem chart_eq_ok (hrules : g.rules ≠ []) (hstart : g.start = some start)
    (hword : ∀ c ∈ word, c ∈ g.terminals) : g.chart word = .ok ((g.bits start).chart word) := by
  have hforeign : (g.bits start).foreign? word = none := by
    rw [BitGrammar.foreign?, List.find?_eq_none]
    intro c hc
    simpa [bits] using hword c hc
  exact chart_of_toBits (toBits_eq_ok hrules hstart) hforeign

/-- So is the question whether it is derived. -/
theorem accepts_eq_ok (hrules : g.rules ≠ []) (hstart : g.start = some start)
    (hword : ∀ c ∈ word, c ∈ g.terminals) :
    g.accepts word = .ok ((g.bits start).chart word).accepts := by
  rw [accepts_eq, chart_eq_ok hrules hstart hword]
  rfl

/-- So is the question for its table. -/
theorem table_eq_ok (hrules : g.rules ≠ []) (hstart : g.start = some start)
    (hword : ∀ c ∈ word, c ∈ g.terminals) :
    g.table word = .ok ((g.bits start).chart word).print := by
  rw [table, chart_eq_ok hrules hstart hword]
  rfl

/-- The chart of a word accepts it exactly when the start symbol derives it. -/
theorem WellFormed.accepts_chart_iff (hg : g.WellFormed) (hstart : g.start = some start)
    (hword : ∀ c ∈ word, c ∈ g.terminals) :
    ((g.bits start).chart word).accepts = true ↔ g.Derives start word := by
  rcases Nat.eq_zero_or_pos word.length with hnil | hpos
  · obtain rfl := List.length_eq_zero_iff.1 hnil
    rw [BitGrammar.accepts_chart_nil]
    exact iff_of_false Bool.false_ne_true fun h => h.ne_nil rfl
  -- The verdict looks at the stretch that is the whole word.
  · have hcell := hg.has_maskAt_iff_derives start hword hpos le_rfl
      (Nat.zero_add _).le (hg.start_mem start hstart)
    rw [stretch_all] at hcell
    rw [← hcell, Chart.accepts, bne_iff_ne, BitGrammar.and_bit_ne_zero_iff]
    rfl

/-- A cell within the triangle lists the declared nonterminals that derive its stretch. -/
theorem WellFormed.exists_cell (hg : g.WellFormed) (start : Char)
    (hword : ∀ c ∈ word, c ∈ g.terminals) {offset span : Nat} (hspan : 1 ≤ span)
    (hstretch : offset + span ≤ word.length) :
    ∃ cell, ((g.bits start).chart word).cell offset span = .ok cell ∧
      ∀ head, head ∈ cell ↔
        head ∈ g.nonterminals ∧ g.Derives head (stretch word offset span) := by
  refine ⟨_, Chart.cell_eq_ok hspan hstretch, fun head => ?_⟩
  show head ∈ (g.bits start).symbols (((g.bits start).chart word).mask offset span) ↔ _
  rw [BitGrammar.mem_symbols_iff hg.bits_nodup]
  refine Iff.trans (and_congr_left fun _ => mem_bits_nonterminals) ?_
  refine and_congr_right fun hhead => ?_
  exact hg.has_maskAt_iff_derives start hword hspan (by omega) hstretch hhead

/-- A reachable grammar that is ready has a chart for every word over its terminals. The cell of a
stretch lists exactly the declared nonterminals that yield the stretch by rewriting, and the word is
accepted exactly when the start symbol yields it. The empty word is not accepted and not yielded. -/
theorem mem_cell_iff_yields (hg : g.Reachable) (hrules : g.rules ≠ [])
    (hstart : g.start = some start) (hword : ∀ c ∈ word, c ∈ g.terminals) :
    (∃ chart, g.chart word = .ok chart ∧
      ∀ offset span : Nat, 1 ≤ span → offset + span ≤ word.length →
        ∃ cell, chart.cell offset span = .ok cell ∧
          ∀ head, head ∈ cell ↔
            head ∈ g.nonterminals ∧ g.Yields [head] (stretch word offset span)) ∧
    (∃ verdict, g.accepts word = .ok verdict ∧ (verdict = true ↔ g.Yields [start] word)) ∧
    g.accepts [] = .ok false ∧ ¬ g.Yields [start] [] := by
  have hwf := hg.wellFormed
  have hmem : start ∈ g.nonterminals := hwf.start_mem start hstart
  refine ⟨⟨_, chart_eq_ok hrules hstart hword, ?_⟩, ⟨_, accepts_eq_ok hrules hstart hword, ?_⟩,
    ?_, ?_⟩
  · intro offset span hspan hstretch
    obtain ⟨cell, hcell, hmemCell⟩ := hwf.exists_cell start hword hspan hstretch
    refine ⟨cell, hcell, fun head => (hmemCell head).trans (and_congr_right fun hhead => ?_)⟩
    -- Rewriting and deriving agree on words over the terminals.
    have hterminals : ∀ c ∈ stretch word offset span, c ∈ g.terminals := fun c hc =>
      hword c (List.mem_of_mem_drop (List.mem_of_mem_take hc))
    exact (hwf.yields_iff_derives hhead hterminals).symm
  · rw [hwf.accepts_chart_iff hstart hword, hwf.yields_iff_derives hmem hword]
  · rw [accepts_eq_ok hrules hstart (List.forall_mem_nil _), BitGrammar.accepts_chart_nil]
  · rw [hwf.yields_iff_derives hmem (List.forall_mem_nil _)]
    exact fun h => h.ne_nil rfl

/-- The grammar of words of pairs `ab` is reachable and ready, so its chart of `abab` accepts
because `S` yields that word. -/
theorem mem_cell_iff_yields_abab :
    let g : Grammar :=
      { nonterminals := ['S', 'A', 'B']
        terminals := ['a', 'b']
        start := some 'S'
        rules := [⟨'S', .pair 'A' 'B'⟩, ⟨'S', .pair 'S' 'S'⟩, ⟨'A', .terminal 'a'⟩,
          ⟨'B', .terminal 'b'⟩] }
    g.Reachable ∧ g.rules ≠ [] ∧ g.start = some 'S' ∧
      (∀ c ∈ ['a', 'b', 'a', 'b'], c ∈ g.terminals) ∧ g.accepts ['a', 'b', 'a', 'b'] = .ok true ∧
      g.Yields ['S'] ['a', 'b', 'a', 'b'] := by
  intro g
  -- The operations that declare the symbols and add the rules lead to it.
  have hbuilt : empty.performAll
      [.declareNonterminal (.text "S"), .declareNonterminal (.text "A"),
        .declareNonterminal (.text "B"), .declareTerminal (.text "a"), .declareTerminal (.text "b"),
        .setStart (.text "S"), .addRule (.text "S") (.text "AB"), .addRule (.text "S") (.text "SS"),
        .addRule (.text "A") (.text "a"), .addRule (.text "B") (.text "b")] = g := by
    decide +kernel
  have hg : g.Reachable := hbuilt ▸ Reachable.empty.performAll _
  have hword : ∀ c ∈ ['a', 'b', 'a', 'b'], c ∈ g.terminals := by simp [g]
  have haccepts : g.accepts ['a', 'b', 'a', 'b'] = .ok true := by decide +kernel
  obtain ⟨-, ⟨verdict, hverdict, hyields⟩, -⟩ :=
    mem_cell_iff_yields hg (List.cons_ne_nil _ _) rfl hword
  have htrue : verdict = true := Except.ok.inj (hverdict.symm.trans haccepts)
  exact ⟨hg, List.cons_ne_nil _ _, rfl, hword, haccepts, hyields.1 htrue⟩

end Grammar

end CykChart
