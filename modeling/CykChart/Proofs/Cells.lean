import CykChart.Proofs.Rearranging

/-!
# The cells of filled charts

What a filled chart shows goes through its cells, which list nonterminals in ascending order. A mask
of a chart has no bits beyond those of the nonterminals, so a cell is empty exactly when its mask is
zero. A cell of several symbols is nonempty exactly when some cut of its stretch is joined by a
rule, and a cut is joined exactly when a rule has its two symbols in the cells of the two parts.

Cells depend on the rules only. Grammars with the same rules list the same cells, however many
symbols without rules they declare and in whatever order, although their masks differ. With more
rules the cells list more.

## Main definitions

- `BitGrammar.Fits`: masks without bits beyond those of the nonterminals.
- `Chart.Filled`: cells that list some nonterminal.

## Main results

- `Chart.exists_cell_iff`, `Grammar.WellFormed.mem_symbols_mask_iff`: what a cell lists.
- `Grammar.WellFormed.symbols_mask_eq_nil_iff`, `Grammar.WellFormed.filled_iff`: empty cells have
  the mask zero.
- `Grammar.WellFormed.joinAt_ne_zero_iff`, `BitGrammar.mask_ne_zero_iff`: cuts that are joined.
- `Grammar.WellFormed.symbols_mask_subset`, `Grammar.WellFormed.accepts_chart_mono`: what more rules
  change.
- `Grammar.WellFormed.cell_chart_eq`, `Grammar.WellFormed.accepts_chart_eq`,
  `Grammar.WellFormed.print_chart_eq`: grammars with the same rules list the same cells, accept the
  same words and print the same tables.
-/

namespace CykChart

/-! ## Lists of symbols in ascending order -/

/-- The symbols of a number keep the order of the list that numbers them. -/
theorem selectBits_sublist (symbols : List Char) (bits : Int) :
    (selectBits symbols bits).Sublist symbols := by
  induction symbols generalizing bits with
  | nil => exact List.Sublist.refl _
  | cons symbol rest ih =>
    rw [selectBits]
    split
    · exact (ih _).cons_cons symbol
    · exact (ih _).cons symbol

/-- Two lists in ascending order with the same members are the same list. -/
theorem eq_of_ascending {as bs : List Char} (has : as.Pairwise (· < ·)) (hbs : bs.Pairwise (· < ·))
    (hmem : ∀ c, c ∈ as ↔ c ∈ bs) : as = bs := by
  have hperm : as.Perm bs :=
    (List.perm_ext_iff_of_nodup (has.imp Char.ne_of_lt) (hbs.imp Char.ne_of_lt)).2 hmem
  exact hperm.eq_of_pairwise (fun _ _ _ _ hab hba => absurd hba (Char.lt_asymm hab)) has hbs

/-! ## Unions of masks -/

/-- A union is empty only when all of its parts are. -/
theorem foldl_or_ne_zero_iff {α : Type} {f : α → Nat} {as : List α} :
    as.foldl (fun mask a => mask ||| f a) 0 ≠ 0 ↔ ∃ a ∈ as, f a ≠ 0 := by
  constructor
  · intro h
    -- A number is not zero when some bit is set, and a bit of a union is set in a member.
    obtain ⟨i, hi⟩ := Nat.exists_testBit_of_ne_zero h
    rw [testBit_foldl_or] at hi
    obtain ⟨a, ha, hbit⟩ := hi.resolve_left (by simp)
    exact ⟨a, ha, fun hzero => by simp [hzero] at hbit⟩
  · rintro ⟨a, ha, hne⟩ hzero
    obtain ⟨i, hi⟩ := Nat.exists_testBit_of_ne_zero hne
    have hbit := (testBit_foldl_or f as 0 i).2 (.inr ⟨a, ha, hi⟩)
    simp [hzero] at hbit

/-! ## Triangles of cells -/

/-- A triangle has a cell for each nonempty stretch. -/
theorem sum_map_range' (n : Nat) :
    ((List.range' 1 n).map fun span => n + 1 - span).sum = n * (n + 1) / 2 := by
  have htwice : 2 * ((List.range' 1 n).map fun span => n + 1 - span).sum = n * (n + 1) := by
    induction n with
    | zero => rfl
    | succ n ih =>
      -- The first row is the longest, and the others make up the smaller triangle.
      have hothers : List.range' 2 n = (List.range' 1 n).map (1 + ·) :=
        (List.map_add_range' 1 n 1).symm
      have hrow : ((fun span => n + 1 + 1 - span) ∘ (1 + ·)) = fun span => n + 1 - span := by
        funext span
        show n + 1 + 1 - (1 + span) = n + 1 - span
        omega
      rw [List.range'_succ, List.map_cons, List.sum_cons, hothers, List.map_map, hrow, Nat.mul_add,
        ih, Nat.add_sub_cancel, ← Nat.add_mul, Nat.add_comm 2 n, Nat.mul_comm]
  rw [← htwice, Nat.mul_div_cancel_left _ (by decide)]

/-- Different triangles have different numbers of cells. -/
theorem triangle_injective : Function.Injective fun n : Nat => n * (n + 1) / 2 := by
  refine (strictMono_nat_of_lt_succ fun n => ?_).injective
  have hrow : (n + 1) * (n + 1 + 1) = n * (n + 1) + 2 * (n + 1) := by
    rw [← Nat.add_mul, Nat.mul_comm]
  rw [hrow, Nat.add_mul_div_left _ _ (by decide)]
  omega

namespace BitGrammar

variable {g : BitGrammar} {word : List Char}

/-- A mask has no bits beyond those of the nonterminals. -/
def Fits (g : BitGrammar) (mask : Nat) : Prop :=
  ∀ i, mask.testBit i = true → i < g.nonterminals.length

/-- The empty mask has no bits at all. -/
theorem fits_zero (g : BitGrammar) : g.Fits 0 := by
  intro i hi
  exact absurd hi (by simp)

/-- A union has no bits that none of its parts has. -/
theorem fits_foldl_or {α : Type} {f : α → Nat} {as : List α} (h : ∀ a ∈ as, g.Fits (f a)) :
    g.Fits (as.foldl (fun mask a => mask ||| f a) 0) := by
  intro i hi
  rw [testBit_foldl_or] at hi
  obtain ⟨a, ha, hbit⟩ := hi.resolve_left (by simp)
  exact h a ha i hbit

/-- The bit of a nonterminal is one of those that count. -/
theorem fits_bitIn {c : Char} (hc : c ∈ g.nonterminals) : g.Fits (bitIn g.nonterminals c) := by
  intro i hi
  rw [testBit_bitIn_iff] at hi
  exact hi ▸ List.idxOf_lt_length_iff.2 hc

/-- A mask that is not zero holds a nonterminal. -/
theorem Fits.exists_has {mask : Nat} (h : g.Fits mask) (hnodup : g.nonterminals.Nodup)
    (hne : mask ≠ 0) : ∃ c ∈ g.nonterminals, g.has mask c = true := by
  obtain ⟨i, hi⟩ := Nat.exists_testBit_of_ne_zero hne
  have hlength : i < g.nonterminals.length := h i hi
  refine ⟨g.nonterminals[i], List.getElem_mem hlength, ?_⟩
  rwa [has, hnodup.idxOf_getElem]

/-- A mask without further bits reads back as no nonterminals only when it is zero. -/
theorem Fits.symbols_eq_nil_iff {mask : Nat} (h : g.Fits mask) (hnodup : g.nonterminals.Nodup) :
    g.symbols mask = [] ↔ mask = 0 := by
  rw [List.eq_nil_iff_forall_not_mem]
  constructor
  · intro hnone
    by_contra hne
    obtain ⟨c, hc, hhas⟩ := h.exists_has hnodup hne
    exact hnone c ((mem_symbols_iff hnodup).2 ⟨hc, hhas⟩)
  · rintro rfl c hc
    exact absurd ((mem_symbols_iff hnodup).1 hc).2 (by simp)

/-- The bits of the symbols of a mask add up to the mask. -/
theorem Fits.maskIn_symbols {mask : Nat} (hfits : g.Fits mask) (hnodup : g.nonterminals.Nodup) :
    Grammar.maskIn g.nonterminals (g.symbols mask) = mask := by
  refine Nat.eq_of_testBit_eq fun i => ?_
  rw [Bool.eq_iff_iff, testBit_maskIn_symbols_iff hnodup]
  exact and_iff_right_of_imp (hfits i)

/-! ## Masks of charts -/

/-- The cell of one symbol holds the heads of its rules. -/
theorem mask_one {offset : Nat} (hoffset : offset < word.length) :
    (g.chart word).mask offset 1 = g.heads word[offset] :=
  maskAt_one g word (by omega) hoffset

/-- The cell of a longer stretch is the union of what its cuts join. -/
theorem mask_of_two_le {offset span : Nat} (hspan : 2 ≤ span)
    (hstretch : offset + span ≤ word.length) :
    (g.chart word).mask offset span =
      (cuts span).foldl
        (fun mask first => mask ||| g.joinAt (g.chart word).rows offset span first) 0 :=
  maskAt_of_two_le g word hspan (by omega) hstretch

/-- Masks of charts have no bits but those that rules bring in. -/
theorem fits_mask (hheads : ∀ c ∈ word, g.Fits (g.heads c))
    (hcombine : ∀ left right, g.Fits (g.combine left right)) {offset span : Nat} (hspan : 1 ≤ span)
    (hstretch : offset + span ≤ word.length) : g.Fits ((g.chart word).mask offset span) := by
  rcases Nat.lt_or_ge span 2 with hone | htwo
  · obtain rfl : span = 1 := by omega
    rw [mask_one (by omega)]
    exact hheads _ (List.getElem_mem _)
  · rw [mask_of_two_le htwo hstretch]
    exact fits_foldl_or fun first _ => hcombine _ _

/-- A cell of several symbols is not empty when some cut of its stretch is joined. -/
theorem mask_ne_zero_iff {offset span : Nat} (hspan : 2 ≤ span)
    (hstretch : offset + span ≤ word.length) :
    (g.chart word).mask offset span ≠ 0 ↔
      ∃ first ∈ cuts span, g.joinAt (g.chart word).rows offset span first ≠ 0 := by
  rw [mask_of_two_le hspan hstretch, foldl_or_ne_zero_iff]

/-! ## Rows by cells -/

/-- A row has the masks of the stretches of its length, by offset. -/
theorem getElem_rows_chart {index : Nat} (h : index < (g.chart word).rows.length) :
    (g.chart word).rows[index] =
      (List.range (word.length - index)).map fun offset =>
        (g.chart word).mask offset (index + 1) := by
  have hbound : index < word.length := by simpa [chart] using h
  -- Later rows do not change the row of a span once it is filled.
  have hrow : (g.chart word).rows[index] =
      g.row word (g.rowsUpTo word index) (index + 1) := by
    rw [← getD_rowsUpTo g word hbound]
    exact (List.getD_eq_getElem _ _ h).symm
  refine List.ext_getElem ?_ fun offset hoffset _ => ?_
  · rw [hrow, length_row, List.length_map, List.length_range]
    omega
  · rw [List.getElem_map, List.getElem_range, Chart.mask, maskAt, Nat.add_sub_cancel,
      List.getD_eq_getElem _ _ h, List.getD_eq_getElem _ _ hoffset]

/-- The rows of a chart are its masks by length and offset. -/
theorem rows_chart_eq_map (g : BitGrammar) (word : List Char) :
    (g.chart word).rows = (List.range' 1 word.length).map fun span =>
      (List.range (word.length + 1 - span)).map fun offset => (g.chart word).mask offset span := by
  refine List.ext_getElem (by simp [chart]) fun index hindex _ => ?_
  rw [getElem_rows_chart hindex, List.getElem_map, List.getElem_range', Nat.one_mul,
    Nat.add_comm 1 index, Nat.add_sub_add_right]

/-- A chart has as many cells as its word has nonempty stretches. -/
theorem length_cells_chart (g : BitGrammar) (word : List Char) :
    (g.chart word).cells.length = word.length * (word.length + 1) / 2 := by
  rw [Chart.cells, rows_chart_eq_map, List.length_map, List.length_flatten, List.map_map,
    ← sum_map_range']
  refine congrArg List.sum (List.map_congr_left fun span _ => ?_)
  rw [Function.comp_apply, List.length_map, List.length_range]

end BitGrammar

/-- What is true of a cell within the triangle is true of the nonterminals of its mask. -/
theorem Chart.exists_cell_iff {chart : Chart} {offset span : Nat} {p : List Char → Prop}
    (hspan : 1 ≤ span) (hstretch : offset + span ≤ chart.word.length) :
    (∃ cell, chart.cell offset span = .ok cell ∧ p cell) ↔
      p (chart.grammar.symbols (chart.mask offset span)) := by
  rw [Chart.cell_eq_ok hspan hstretch]
  exact ⟨fun ⟨cell, heq, hcell⟩ => Except.ok.inj heq ▸ hcell, fun hcell => ⟨_, rfl, hcell⟩⟩

/-- A cell that lists some nonterminal. -/
def Chart.Filled (chart : Chart) (offset span : Nat) : Prop :=
  ∃ cell, chart.cell offset span = .ok cell ∧ cell ≠ []

namespace Grammar

variable {g h : Grammar} {start head : Char} {word : List Char} {offset span : Nat}

/-! ## Derivations from more rules -/

/-- What is derived is still derived when there are more rules. -/
theorem Derives.mono (hderives : g.Derives head word) (hrules : g.rules ⊆ h.rules) :
    h.Derives head word := by
  induction hderives with
  | terminal rule => exact .terminal (hrules rule)
  | pair rule _ _ ihFirst ihSecond => exact .pair (hrules rule) ihFirst ihSecond

/-- Grammars with the same rules, in whatever order, derive the same words. -/
theorem derives_congr (hrules : ∀ rule, rule ∈ g.rules ↔ rule ∈ h.rules) :
    g.Derives head word ↔ h.Derives head word :=
  ⟨fun hderives => hderives.mono fun rule => (hrules rule).1,
    fun hderives => hderives.mono fun rule => (hrules rule).2⟩

/-- What derives a word is the head of a rule. -/
theorem Derives.exists_rule (hderives : g.Derives head word) : ∃ body, ⟨head, body⟩ ∈ g.rules := by
  cases hderives with
  | terminal rule => exact ⟨_, rule⟩
  | pair rule => exact ⟨_, rule⟩

namespace WellFormed

/-! ## What cells list -/

/-- Nonterminals are numbered in the order of their code points. -/
theorem pairwise_bits (hg : g.WellFormed) (start : Char) :
    (g.bits start).nonterminals.Pairwise (· < ·) := by
  have hnodup : (g.bits start).nonterminals.Nodup := hg.bits_nodup
  refine ((pairwise_sortBy g.nonterminals).and hnodup).imp fun hboth => ?_
  exact Char.not_le.1 fun hle => hboth.2 (Char.le_antisymm hboth.1 hle)

/-- A cell lists its nonterminals in that order. -/
theorem pairwise_symbols (hg : g.WellFormed) (start : Char) (mask : Int) :
    ((g.bits start).symbols mask).Pairwise (· < ·) :=
  (hg.pairwise_bits start).sublist (selectBits_sublist _ mask)

/-- A cell lists the nonterminals that derive its stretch. -/
theorem mem_symbols_mask_iff (hg : g.WellFormed) (start : Char)
    (hword : ∀ c ∈ word, c ∈ g.terminals) (hspan : 1 ≤ span)
    (hstretch : offset + span ≤ word.length) :
    head ∈ (g.bits start).symbols (((g.bits start).chart word).mask offset span) ↔
      g.Derives head (stretch word offset span) := by
  rw [BitGrammar.mem_symbols_iff hg.bits_nodup, mem_bits_nonterminals]
  constructor
  · rintro ⟨hhead, hhas⟩
    exact (hg.has_maskAt_iff_derives start hword hspan (by omega) hstretch hhead).1 hhas
  · intro hderives
    -- What derives anything is the head of a rule, hence declared.
    obtain ⟨body, hrule⟩ := hderives.exists_rule
    have hhead : head ∈ g.nonterminals := hg.head_mem _ hrule
    exact ⟨hhead,
      (hg.has_maskAt_iff_derives start hword hspan (by omega) hstretch hhead).2 hderives⟩

/-! ## Empty cells and cuts -/

/-- The heads of a terminal are nonterminals. -/
theorem fits_heads (g : Grammar) (start : Char) {terminal : Char} (h : terminal ∈ g.terminals) :
    (g.bits start).Fits ((g.bits start).heads terminal) := by
  have hheads : (g.bits start).heads terminal =
      maskIn (g.bits start).nonterminals (g.headsOf terminal) := lookup_unaryMasks g _ h
  rw [hheads]
  refine BitGrammar.fits_foldl_or fun head hhead => BitGrammar.fits_bitIn ?_
  exact mem_bits_nonterminals.2 (mem_headsOf.1 hhead).1

/-- What two masks are joined to has bits for heads only, whatever bits the masks have. -/
theorem fits_combine (g : Grammar) (start : Char) (left right : Int) :
    (g.bits start).Fits ((g.bits start).combine left right) := by
  rw [BitGrammar.combine_eq_foldl]
  refine BitGrammar.fits_foldl_or fun rule hrule => ?_
  obtain ⟨head, b, d, hhead, -, rfl⟩ := mem_bitRules_iff.1 hrule
  rw [BitGrammar.contribution]
  split
  · exact BitGrammar.fits_bitIn (mem_bits_nonterminals.2 hhead)
  · exact BitGrammar.fits_zero _

/-- So no cell of a chart has a bit that stands for no nonterminal. -/
theorem fits_chart (g : Grammar) (start : Char) (hword : ∀ c ∈ word, c ∈ g.terminals)
    (hspan : 1 ≤ span) (hstretch : offset + span ≤ word.length) :
    (g.bits start).Fits (((g.bits start).chart word).mask offset span) :=
  BitGrammar.fits_mask (fun c hc => fits_heads g start (hword c hc)) (fits_combine g start) hspan
    hstretch

/-- A cell is empty exactly when its mask is zero. -/
theorem symbols_mask_eq_nil_iff (hg : g.WellFormed) (start : Char)
    (hword : ∀ c ∈ word, c ∈ g.terminals) (hspan : 1 ≤ span)
    (hstretch : offset + span ≤ word.length) :
    (g.bits start).symbols (((g.bits start).chart word).mask offset span) = [] ↔
      ((g.bits start).chart word).mask offset span = 0 :=
  (fits_chart g start hword hspan hstretch).symbols_eq_nil_iff hg.bits_nodup

/-- A cell lists something when its mask is not zero. -/
theorem filled_iff (hg : g.WellFormed) (start : Char) (hword : ∀ c ∈ word, c ∈ g.terminals)
    (hspan : 1 ≤ span) (hstretch : offset + span ≤ word.length) :
    ((g.bits start).chart word).Filled offset span ↔
      ((g.bits start).chart word).mask offset span ≠ 0 :=
  (Chart.exists_cell_iff hspan hstretch).trans
    (not_congr (hg.symbols_mask_eq_nil_iff start hword hspan hstretch))

/-- A cut is joined exactly when some rule has its two symbols in the cells of the two parts. -/
theorem joinAt_ne_zero_iff (hg : g.WellFormed) (start : Char) {chart : Chart} {first : Nat} :
    (g.bits start).joinAt chart.rows offset span first ≠ 0 ↔
      ∃ head left right, ⟨head, .pair left right⟩ ∈ g.rules ∧
        left ∈ (g.bits start).symbols (chart.mask offset first) ∧
        right ∈ (g.bits start).symbols (chart.mask (offset + first) (span - first)) := by
  have hmem : ∀ {c : Char} {mask : Nat}, c ∈ g.nonterminals →
      (c ∈ (g.bits start).symbols mask ↔ (g.bits start).has mask c = true) := fun hc =>
    (BitGrammar.mem_symbols_iff hg.bits_nodup).trans (and_iff_right (mem_bits_nonterminals.2 hc))
  constructor
  · intro hne
    -- A mask within the range of the numbering is not zero when it has some symbol.
    obtain ⟨head, -, hhas⟩ := (fits_combine g start _ _).exists_has hg.bits_nodup hne
    obtain ⟨left, right, hrule, hleft, hright⟩ := hg.has_combine_iff.1 hhas
    have hbody : left ∈ g.nonterminals ∧ right ∈ g.nonterminals := hg.body_mem _ hrule
    exact ⟨head, left, right, hrule, (hmem hbody.1).2 hleft, (hmem hbody.2).2 hright⟩
  · rintro ⟨head, left, right, hrule, hleft, hright⟩ hzero
    have hbody : left ∈ g.nonterminals ∧ right ∈ g.nonterminals := hg.body_mem _ hrule
    have hhas := hg.has_combine_iff.2
      ⟨left, right, hrule, (hmem hbody.1).1 hleft, (hmem hbody.2).1 hright⟩
    rw [BitGrammar.joinAt] at hzero
    exact absurd hhas (by simp [Chart.mask, hzero])

/-! ## Grammars with more rules -/

section MoreRules

variable (hg : g.WellFormed) (hh : h.WellFormed)
include hg hh

/-- With more rules a cell lists what it lists with fewer. -/
theorem symbols_mask_subset (start start' : Char) (hrules : g.rules ⊆ h.rules)
    (hword : ∀ c ∈ word, c ∈ g.terminals) (hword' : ∀ c ∈ word, c ∈ h.terminals) (hspan : 1 ≤ span)
    (hstretch : offset + span ≤ word.length) :
    (g.bits start).symbols (((g.bits start).chart word).mask offset span) ⊆
      (h.bits start').symbols (((h.bits start').chart word).mask offset span) := by
  intro c hc
  rw [hg.mem_symbols_mask_iff start hword hspan hstretch] at hc
  rw [hh.mem_symbols_mask_iff start' hword' hspan hstretch]
  exact hc.mono hrules

/-- With more rules a word is still accepted. -/
theorem accepts_chart_mono (hrules : g.rules ⊆ h.rules) (hstart : g.start = some start)
    (hstart' : h.start = some start) (hword : ∀ c ∈ word, c ∈ g.terminals)
    (hword' : ∀ c ∈ word, c ∈ h.terminals) (haccepts : ((g.bits start).chart word).accepts = true) :
    ((h.bits start).chart word).accepts = true := by
  rw [hg.accepts_chart_iff hstart hword] at haccepts
  rw [hh.accepts_chart_iff hstart' hword']
  exact haccepts.mono hrules

end MoreRules

/-! ## Grammars with the same rules -/

/-- Grammars with the same rules list the same cells. -/
theorem symbols_mask_eq (hg : g.WellFormed) (hh : h.WellFormed) (start start' : Char)
    (hrules : ∀ rule, rule ∈ g.rules ↔ rule ∈ h.rules) (hword : ∀ c ∈ word, c ∈ g.terminals)
    (hword' : ∀ c ∈ word, c ∈ h.terminals) (hspan : 1 ≤ span)
    (hstretch : offset + span ≤ word.length) :
    (g.bits start).symbols (((g.bits start).chart word).mask offset span) =
      (h.bits start').symbols (((h.bits start').chart word).mask offset span) := by
  refine eq_of_ascending (hg.pairwise_symbols start _) (hh.pairwise_symbols start' _) fun c => ?_
  rw [hg.mem_symbols_mask_iff start hword hspan hstretch,
    hh.mem_symbols_mask_iff start' hword' hspan hstretch, derives_congr hrules]

/-- Charts filled with the same rules answer every request for a cell alike. -/
theorem cell_chart_eq (hg : g.WellFormed) (hh : h.WellFormed) (start start' : Char)
    (hrules : ∀ rule, rule ∈ g.rules ↔ rule ∈ h.rules) (hword : ∀ c ∈ word, c ∈ g.terminals)
    (hword' : ∀ c ∈ word, c ∈ h.terminals) (offset span : Int) :
    ((g.bits start).chart word).cell offset span =
      ((h.bits start').chart word).cell offset span := by
  -- Outside the triangle the refusal only names the pair and the word.
  by_cases houtside : span < 1 ∨ offset < 0 ∨ offset + span > word.length
  · exact (if_pos houtside).trans (if_pos houtside).symm
  · obtain ⟨offset, rfl⟩ := Int.eq_ofNat_of_zero_le (show 0 ≤ offset by omega)
    obtain ⟨span, rfl⟩ := Int.eq_ofNat_of_zero_le (show 0 ≤ span by omega)
    have hspan : 1 ≤ span := by omega
    have hstretch : offset + span ≤ word.length := by omega
    rw [Chart.cell_eq_ok hspan hstretch, Chart.cell_eq_ok hspan hstretch]
    exact congrArg Except.ok
      (hg.symbols_mask_eq hh start start' hrules hword hword' hspan hstretch)

/-- Grammars with the same rules and start symbol accept the same words. -/
theorem accepts_chart_eq (hg : g.WellFormed) (hh : h.WellFormed)
    (hrules : ∀ rule, rule ∈ g.rules ↔ rule ∈ h.rules) (hstart : g.start = some start)
    (hstart' : h.start = some start) (hword : ∀ c ∈ word, c ∈ g.terminals)
    (hword' : ∀ c ∈ word, c ∈ h.terminals) :
    ((g.bits start).chart word).accepts = ((h.bits start).chart word).accepts := by
  rw [Bool.eq_iff_iff, hg.accepts_chart_iff hstart hword, hh.accepts_chart_iff hstart' hword',
    derives_congr hrules]

/-- Grammars with the same rules print the same tables. -/
theorem print_chart_eq (hg : g.WellFormed) (hh : h.WellFormed) (start start' : Char)
    (hrules : ∀ rule, rule ∈ g.rules ↔ rule ∈ h.rules) (hword : ∀ c ∈ word, c ∈ g.terminals)
    (hword' : ∀ c ∈ word, c ∈ h.terminals) :
    ((g.bits start).chart word).print = ((h.bits start').chart word).print := by
  rw [Chart.print, Chart.print, BitGrammar.rows_chart_eq_map, BitGrammar.rows_chart_eq_map,
    List.map_map, List.map_map]
  refine congrArg String.join (List.map_congr_left fun span hspan => ?_)
  rw [List.mem_range'_1] at hspan
  simp only [Function.comp_apply, Chart.printRow, List.map_map]
  refine congrArg (fun cells => String.intercalate "\t" cells ++ "\n")
    (List.map_congr_left fun offset hoffset => ?_)
  rw [List.mem_range] at hoffset
  exact congrArg String.ofList
    (hg.symbols_mask_eq hh start start' hrules hword hword' hspan.1 (by omega))

end WellFormed

end Grammar

end CykChart
