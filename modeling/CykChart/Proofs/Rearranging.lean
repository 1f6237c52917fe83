import CykChart.Chart.Drawing
import CykChart.Proofs.Recognition

/-!
# The order of declaration does not show

A grammar numbers its nonterminals by code point, and a union of masks is the same in any order.
Two grammars that differ only in the order in which their symbols and rules were added therefore
fill the same rows, print the same table and draw the same graph.

## Main definitions

- `Grammar.Rearranged`: grammars that differ only in order.
- `BitGrammar.Agrees`: grammars over masks between which charts do not tell.

## Main results

- `sortBy_symbolLe_eq`: a sorted list depends on its members only.
- `Grammar.Rearranged.agrees`: rearranging a grammar changes nothing that a chart is filled from.
- `BitGrammar.Agrees.print_chart`, `BitGrammar.Agrees.drawing_chart`: printed and drawn charts.
-/

namespace CykChart

/-! ## Sorted symbols and unions of masks -/

/-- Putting a character in its place keeps a list in order. -/
theorem pairwise_insertBy {a : Char} {as : List Char} (h : as.Pairwise (· ≤ ·)) :
    (insertBy symbolLe a as).Pairwise (· ≤ ·) := by
  induction as with
  | nil => exact List.pairwise_singleton _ _
  | cons b rest ih =>
    obtain ⟨hfirst, hrest⟩ := List.pairwise_cons.1 h
    unfold insertBy symbolLe
    split
    next hle =>
      have hab : a ≤ b := of_decide_eq_true hle
      refine List.pairwise_cons.2 ⟨?_, h⟩
      exact List.forall_mem_cons.2 ⟨hab, fun c hc => Char.le_trans hab (hfirst c hc)⟩
    next hnot =>
      have hba : b ≤ a := (Char.le_total a b).resolve_left fun hab => hnot (decide_eq_true hab)
      refine List.pairwise_cons.2 ⟨fun c hc => ?_, ih hrest⟩
      -- What stands behind the first symbol is the inserted one or was there before.
      rcases List.mem_cons.1 ((insertBy_perm _ a rest).mem_iff.1 hc) with rfl | hmem
      · exact hba
      · exact hfirst c hmem

/-- Sorting puts characters in order. -/
theorem pairwise_sortBy (as : List Char) : (sortBy symbolLe as).Pairwise (· ≤ ·) := by
  induction as with
  | nil => exact List.Pairwise.nil
  | cons a rest ih => exact pairwise_insertBy ih

/-- Sorting forgets the order of a list without repetitions. -/
theorem sortBy_symbolLe_eq {as bs : List Char} (has : as.Nodup) (hbs : bs.Nodup)
    (hmem : ∀ c, c ∈ as ↔ c ∈ bs) : sortBy symbolLe as = sortBy symbolLe bs := by
  have hperm : as.Perm bs := (List.perm_ext_iff_of_nodup has hbs).2 hmem
  refine List.Perm.eq_of_pairwise (fun _ _ _ _ => Char.le_antisymm) (pairwise_sortBy as)
    (pairwise_sortBy bs) ?_
  exact ((sortBy_perm _ as).trans hperm).trans (sortBy_perm _ bs).symm

/-- A union of masks depends on the set of its parts only. -/
theorem foldl_or_eq_of_mem_iff {α : Type} (f : α → Nat) {as bs : List α}
    (hmem : ∀ a, a ∈ as ↔ a ∈ bs) :
    as.foldl (fun mask a => mask ||| f a) 0 = bs.foldl (fun mask a => mask ||| f a) 0 := by
  refine Nat.eq_of_testBit_eq fun i => ?_
  rw [Bool.eq_iff_iff, testBit_foldl_or, testBit_foldl_or]
  simp only [hmem]

/-! ## Charts of grammars that agree -/

/-- Two grammars over masks number the same nonterminals in the same way, have the same start
symbol, and their rules yield the same masks. -/
structure BitGrammar.Agrees (g h : BitGrammar) : Prop where
  nonterminals : g.nonterminals = h.nonterminals
  start : g.start = h.start
  heads : ∀ terminal ∈ g.terminals, g.heads terminal = h.heads terminal
  combine : ∀ left right, g.combine left right = h.combine left right

namespace BitGrammar.Agrees

variable {g h : BitGrammar} {word : List Char}

/-- Masks read back alike. -/
theorem symbols_eq (agrees : g.Agrees h) (mask : Int) : g.symbols mask = h.symbols mask := by
  rw [symbols, symbols, agrees.nonterminals]

/-- A cut joins the same heads. -/
theorem joinAt_eq (agrees : g.Agrees h) (rows : List (List Nat)) (offset span first : Nat) :
    g.joinAt rows offset span first = h.joinAt rows offset span first := by
  rw [joinAt, joinAt, agrees.combine]

/-- The start symbol has the same bit. -/
theorem bit_start_eq (agrees : g.Agrees h) : g.bit g.start = h.bit h.start := by
  rw [bit, bit, agrees.nonterminals, agrees.start]

/-- From the same rows a row is filled alike. -/
theorem row_eq (agrees : g.Agrees h) (hword : ∀ c ∈ word, c ∈ g.terminals)
    (rows : List (List Nat)) (span : Nat) : g.row word rows span = h.row word rows span := by
  unfold row joinedMask
  simp only [agrees.joinAt_eq]
  rw [List.map_congr_left fun c hc => agrees.heads c (hword c hc)]

/-- So all rows are filled alike. -/
theorem rowsUpTo_eq (agrees : g.Agrees h) (hword : ∀ c ∈ word, c ∈ g.terminals) (bound : Nat) :
    g.rowsUpTo word bound = h.rowsUpTo word bound := by
  induction bound with
  | zero => rfl
  | succ span ih => rw [rowsUpTo, rowsUpTo, ih, agrees.row_eq hword]

/-- The charts of a word have the same rows. -/
theorem rows_chart_eq (agrees : g.Agrees h) (hword : ∀ c ∈ word, c ∈ g.terminals) :
    (g.chart word).rows = (h.chart word).rows :=
  agrees.rowsUpTo_eq hword word.length

/-- Grammars that agree print the same tables. -/
theorem print_chart (agrees : g.Agrees h) (hword : ∀ c ∈ word, c ∈ g.terminals) :
    (g.chart word).print = (h.chart word).print := by
  have hrow : Chart.printRow g = Chart.printRow h := by
    funext row
    simp only [Chart.printRow, agrees.symbols_eq]
  rw [Chart.print, Chart.print, agrees.rows_chart_eq hword]
  exact congrArg (fun printRow => String.join (List.map printRow (h.chart word).rows)) hrow

/-- A node is drawn alike. -/
theorem node_chart (agrees : g.Agrees h) (offset span mask : Nat) :
    (g.chart word).node offset span mask = (h.chart word).node offset span mask := by
  have hlabel : (g.chart word).label offset span mask = (h.chart word).label offset span mask := by
    simp only [Chart.label, chart, agrees.symbols_eq]
  have hbit : (g.chart word).grammar.bit (g.chart word).grammar.start =
      (h.chart word).grammar.bit (h.chart word).grammar.start := agrees.bit_start_eq
  have hcolour : (g.chart word).colour span mask = (h.chart word).colour span mask := by
    rw [Chart.colour, Chart.colour, hbit]
    rfl
  rw [Chart.node, Chart.node, hlabel, hcolour]

/-- The edges of a cut are drawn in both drawings or in neither. -/
theorem cutEdges_chart (agrees : g.Agrees h) (hword : ∀ c ∈ word, c ∈ g.terminals)
    (offset span first : Nat) :
    (g.chart word).cutEdges offset span first = (h.chart word).cutEdges offset span first := by
  have hjoin : (g.chart word).grammar.joinAt (g.chart word).rows offset span first =
      (h.chart word).grammar.joinAt (h.chart word).rows offset span first := by
    rw [agrees.rows_chart_eq hword]
    exact agrees.joinAt_eq _ offset span first
  rw [Chart.cutEdges, Chart.cutEdges, hjoin]

/-- Grammars that agree draw the same graphs. -/
theorem drawing_chart (agrees : g.Agrees h) (hword : ∀ c ∈ word, c ∈ g.terminals) :
    (g.chart word).drawing = (h.chart word).drawing := by
  have hranks : (g.chart word).ranks = (h.chart word).ranks := by
    simp only [Chart.ranks, agrees.node_chart, agrees.rows_chart_eq hword]
  have hedges : (g.chart word).edges = (h.chart word).edges := by
    simp only [Chart.edges, agrees.cutEdges_chart hword]
    rfl
  simp only [Chart.drawing, hranks, hedges]
  rfl

end BitGrammar.Agrees

/-! ## Rearranged grammars -/

/-- Two grammars have the same symbols, the same start symbol and the same rules, each in an order
of its own. -/
structure Grammar.Rearranged (g h : Grammar) : Prop where
  nonterminals : ∀ c, c ∈ g.nonterminals ↔ c ∈ h.nonterminals
  terminals : ∀ c, c ∈ g.terminals ↔ c ∈ h.terminals
  start : g.start = h.start
  rules : ∀ rule, rule ∈ g.rules ↔ rule ∈ h.rules

namespace Grammar.Rearranged

variable {g h : Grammar} {start : Char}

/-- A terminal has the same heads, because the order of rules plays no part in a union. -/
theorem heads_eq (same : g.Rearranged h)
    (hnumbering : sortBy symbolLe g.nonterminals = sortBy symbolLe h.nonterminals)
    {terminal : Char} (hterminal : terminal ∈ g.terminals) :
    (g.bits start).heads terminal = (h.bits start).heads terminal := by
  simp only [BitGrammar.heads, bits]
  rw [lookup_unaryMasks g _ hterminal, lookup_unaryMasks h _ ((same.terminals _).1 hterminal),
    hnumbering]
  refine foldl_or_eq_of_mem_iff _ fun head => ?_
  rw [mem_headsOf, mem_headsOf, same.nonterminals, same.rules]

/-- Two masks are joined to the same heads, for the same reason. -/
theorem combine_eq (same : g.Rearranged h)
    (hnumbering : sortBy symbolLe g.nonterminals = sortBy symbolLe h.nonterminals)
    (left right : Int) :
    (g.bits start).combine left right = (h.bits start).combine left right := by
  rw [BitGrammar.combine_eq_foldl, BitGrammar.combine_eq_foldl]
  refine foldl_or_eq_of_mem_iff _ fun rule => ?_
  simp only [bits, mem_bitRules_iff, same.nonterminals, same.rules, hnumbering]

/-- Rearranging a grammar changes nothing that its charts are filled and shown from. -/
theorem agrees (same : g.Rearranged h) (hg : g.WellFormed) (hh : h.WellFormed) :
    (g.bits start).Agrees (h.bits start) := by
  have hnumbering : sortBy symbolLe g.nonterminals = sortBy symbolLe h.nonterminals :=
    sortBy_symbolLe_eq hg.nonterminals_nodup hh.nonterminals_nodup same.nonterminals
  exact
    { nonterminals := hnumbering
      start := rfl
      heads := fun _ hterminal => same.heads_eq hnumbering hterminal
      combine := same.combine_eq hnumbering }

end Grammar.Rearranged

end CykChart
