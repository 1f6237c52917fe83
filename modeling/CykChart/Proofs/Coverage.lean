import CykChart.Proofs.Drawings
import Mathlib.Logic.Relation

/-!
# Paths in drawings cover stretches

Along an edge of a drawing stretches nest: the stretch of the cell where it begins lies within the
stretch of the cell where it ends, and is shorter. So no path returns, and a path from a single
symbol ends in a cell that covers the symbol. Conversely a cell that is not empty is joined from two
cells that are not empty either, one of which covers the symbol, and so on down to the symbol.

## Main definitions

- `Dot.Graph.Step`, `Dot.Graph.Leads`: edges and paths between identifiers.
- `Chart.Nests`: the edges along which cells that are not empty nest.

## Main results

- `Dot.Graph.not_transGen_self`: no path returns.
- `Dot.Graph.covers_of_leads`: a path from a symbol ends in a cell that covers it.
- `Grammar.WellFormed.leads_of_filled`: each cell is reached from the symbols that it covers.
- `Grammar.leads_iff_covers`: paths in the drawings of reachable grammars.
-/

namespace CykChart

open Chart (nodeName)

namespace Dot.Graph

/-- An edge leads from one identifier to another. -/
def Step (graph : Graph) (source target : String) : Prop :=
  ⟨source, target⟩ ∈ graph.edges

/-- A path, which may be empty, leads from one identifier to another. -/
abbrev Leads (graph : Graph) : String → String → Prop :=
  Relation.ReflTransGen graph.Step

end Dot.Graph

namespace Chart

/-- An edge between cells that are not empty, from a stretch to a longer one around it. -/
def Nests (chart : Chart) (edge : Dot.Edge) : Prop :=
  ∃ offset span offset' span', edge = ⟨nodeName offset span, nodeName offset' span'⟩ ∧
    chart.Filled offset span ∧ chart.Filled offset' span' ∧
    span < span' ∧ offset' ≤ offset ∧ offset + span ≤ offset' + span'

/-- An edge leads to a longer stretch, so no path comes back. -/
theorem Nests.lt {chart : Chart} {source target : String} (h : chart.Nests ⟨source, target⟩) :
    ∃ offset span offset' span', source = nodeName offset span ∧
      target = nodeName offset' span' ∧ span < span' := by
  obtain ⟨offset, span, offset', span', hedge, -, -, hlt, -⟩ := h
  obtain ⟨rfl, rfl⟩ := Dot.Edge.mk.inj hedge
  exact ⟨offset, span, offset', span', rfl, rfl, hlt⟩

end Chart

namespace Dot.Graph

variable {graph : Graph} {chart : Chart}

/-- Along a path that is not empty stretches grow. -/
theorem lt_of_transGen (hnests : ∀ edge ∈ graph.edges, chart.Nests edge) {source target : String}
    (h : Relation.TransGen graph.Step source target) :
    ∃ offset span offset' span', source = nodeName offset span ∧
      target = nodeName offset' span' ∧ span < span' := by
  induction h with
  | single hstep => exact (hnests _ hstep).lt
  | tail _ hstep ih =>
    obtain ⟨offset, span, offset', span', hsource, hmiddle, hlt⟩ := ih
    obtain ⟨middle, length, offset'', span'', hmiddle', htarget, hlt'⟩ := (hnests _ hstep).lt
    obtain ⟨rfl, rfl⟩ := nodeName_inj.1 (hmiddle.symm.trans hmiddle')
    exact ⟨offset, span, offset'', span'', hsource, htarget, hlt.trans hlt'⟩

/-- A graph along whose edges stretches nest has no cycle. -/
theorem not_transGen_self (hnests : ∀ edge ∈ graph.edges, chart.Nests edge) (name : String) :
    ¬ Relation.TransGen graph.Step name name := by
  intro hcycle
  obtain ⟨offset, span, offset', span', rfl, hname, hlt⟩ := lt_of_transGen hnests hcycle
  have hspan : span = span' := (nodeName_inj.1 hname).2
  omega

/-- A path from a single symbol ends at that symbol or in a cell that is not empty and covers it. -/
theorem covers_of_leads (hnests : ∀ edge ∈ graph.edges, chart.Nests edge) {position : Nat}
    {target : String} (h : graph.Leads (nodeName position 1) target) :
    ∃ offset span, target = nodeName offset span ∧ (2 ≤ span → chart.Filled offset span) ∧
      offset ≤ position ∧ position < offset + span := by
  -- By induction on the path: its last edge keeps the symbol covered.
  induction h with
  | refl => exact ⟨position, 1, rfl, fun htwo => absurd htwo (by decide), le_rfl, by omega⟩
  | tail _ hstep ih =>
    obtain ⟨offset, span, rfl, -, hfrom, hto⟩ := ih
    obtain ⟨offset', span', offset'', span'', hedge, -, hfilled, -, hbefore, hafter⟩ :=
      hnests _ hstep
    obtain ⟨hsource, rfl⟩ := Dot.Edge.mk.inj hedge
    obtain ⟨rfl, rfl⟩ := nodeName_inj.1 hsource
    exact ⟨offset'', span'', rfl, fun _ => hfilled, by omega, by omega⟩

end Dot.Graph

namespace Grammar

variable {g : Grammar} {word : List Char} {offset span first position : Nat}

namespace WellFormed

/-- The cell over a cut that is joined is not empty, and neither are those of its two parts. -/
theorem filled_of_joined (hg : g.WellFormed) (start : Char) (hword : ∀ c ∈ word, c ∈ g.terminals)
    (hjoined : ((g.bits start).chart word).Joined offset span first) :
    ((g.bits start).chart word).Filled offset span ∧
      ((g.bits start).chart word).Filled offset first ∧
      ((g.bits start).chart word).Filled (offset + first) (span - first) := by
  obtain ⟨hwithin, hpos, hlt, head, left, right, -, ⟨leftCell, hleft, hmemLeft⟩,
    ⟨rightCell, hright, hmemRight⟩⟩ := (hg.joined_iff start).1 hjoined
  refine ⟨?_, ⟨_, hleft, List.ne_nil_of_mem hmemLeft⟩, ⟨_, hright, List.ne_nil_of_mem hmemRight⟩⟩
  have hfirst : first ∈ BitGrammar.cuts span := List.mem_range'_1.2 (by omega)
  rw [hg.filled_iff start hword (by omega) hwithin,
    BitGrammar.mask_ne_zero_iff (by omega) hwithin]
  exact ⟨first, hfirst, hjoined.joinAt_ne_zero⟩

/-- Along the edges of a drawing cells that are not empty nest. -/
theorem nests_of_mem_edges (hg : g.WellFormed) (start : Char)
    (hword : ∀ c ∈ word, c ∈ g.terminals) :
    ∀ edge ∈ ((g.bits start).chart word).drawing.edges,
      ((g.bits start).chart word).Nests edge := by
  intro edge hedge
  obtain ⟨offset, span, first, hjoined, hpart⟩ := Chart.mem_edges_iff.1 hedge
  obtain ⟨hwhole, hleft, hright⟩ := hg.filled_of_joined start hword hjoined
  have hpos := hjoined.first_pos
  have hlt := hjoined.first_lt
  -- The left part shares the offset of the whole, the right part its end.
  rcases Chart.mem_partEdges_iff.1 hpart with rfl | rfl
  · exact ⟨_, _, _, _, rfl, hleft, hwhole, hlt, le_rfl, by omega⟩
  · exact ⟨_, _, _, _, rfl, hright, hwhole, by omega, by omega, by omega⟩

/-- A cell that is not empty is reached from every symbol that it covers. -/
theorem leads_of_filled (hg : g.WellFormed) (start : Char) (hword : ∀ c ∈ word, c ∈ g.terminals)
    (hspan : 1 ≤ span) (hstretch : offset + span ≤ word.length)
    (hfilled : ((g.bits start).chart word).Filled offset span) (hfrom : offset ≤ position)
    (hto : position < offset + span) :
    ((g.bits start).chart word).drawing.Leads (nodeName position 1) (nodeName offset span) := by
  -- By induction on the length: one part of the cut that is joined covers the symbol.
  induction span using Nat.strong_induction_on generalizing offset with
  | _ span ih =>
    rcases Nat.eq_or_lt_of_le hspan with rfl | htwo
    · obtain rfl : position = offset := by omega
      exact .refl
    · obtain ⟨first, hfirst, hne⟩ := (BitGrammar.mask_ne_zero_iff htwo hstretch).1
        ((hg.filled_iff start hword hspan hstretch).1 hfilled)
      rw [BitGrammar.cuts, List.mem_range'_1] at hfirst
      have hjoined : ((g.bits start).chart word).Joined offset span first :=
        ⟨hfirst.1, by omega, hstretch, hne⟩
      obtain ⟨-, hleft, hright⟩ := hg.filled_of_joined start hword hjoined
      have hedges : ∀ edge ∈ Chart.partEdges offset span first,
          edge ∈ ((g.bits start).chart word).drawing.edges := fun edge hpart =>
        Chart.mem_edges_iff.2 ⟨_, _, _, hjoined, hpart⟩
      rcases Nat.lt_or_ge position (offset + first) with hbefore | hafter
      · have hpath := ih first (by omega) hfirst.1 (by omega) hleft hfrom hbefore
        exact hpath.tail (hedges _ List.mem_cons_self)
      · have hpath := ih (span - first) (by omega) (by omega) (by omega) hright hafter (by omega)
        exact hpath.tail (hedges _ (List.mem_cons_of_mem _ (List.mem_singleton_self _)))

end WellFormed

/-- In the drawing of a word over the terminals of a reachable grammar that is ready, a path leads
from a single symbol to a cell of several symbols exactly when the cell is not empty and covers the
symbol. Each edge leads from a cell that is not empty to another one whose stretch is longer and
contains the stretch of the first, and no path returns to where it began. When the word is accepted
every symbol is connected to the cell of the whole word. -/
theorem leads_iff_covers (hg : g.Reachable) (hrules : g.rules ≠ []) (hready : g.start ≠ none)
    (hword : ∀ c ∈ word, c ∈ g.terminals) :
    ∃ chart source graph, g.chart word = .ok chart ∧
      Dot.Graph.source <$> g.drawing word = .ok source ∧ Dot.read? source.toList = some graph ∧
      (∀ position offset span : Nat, position < word.length → 2 ≤ span →
        offset + span ≤ word.length →
        ∃ cell, chart.cell offset span = .ok cell ∧
          (graph.Leads (nodeName position 1) (nodeName offset span) ↔
            cell ≠ [] ∧ offset ≤ position ∧ position < offset + span)) ∧
      (∀ edge ∈ graph.edges, chart.Nests edge) ∧
      (∀ name, ¬ Relation.TransGen graph.Step name name) ∧
      (g.accepts word = .ok true →
        ∀ position < word.length,
          graph.Leads (nodeName position 1) (nodeName 0 word.length)) := by
  have hwf := hg.wellFormed
  obtain ⟨start, hstart⟩ := Option.ne_none_iff_exists'.1 hready
  have hnests := hwf.nests_of_mem_edges start hword
  refine ⟨_, _, _, chart_eq_ok hrules hstart hword, source_eq_ok hrules hstart hword,
    (hwf.drawnBy_drawing start hword).read?_source, ?_, hnests,
    Dot.Graph.not_transGen_self hnests, ?_⟩
  · intro position offset span hposition hspan hstretch
    have hcell : ((g.bits start).chart word).cell offset span = .ok _ :=
      Chart.cell_eq_ok (by omega) hstretch
    refine ⟨_, hcell, ?_, fun ⟨hne, hfrom, hto⟩ =>
      hwf.leads_of_filled start hword (by omega) hstretch ⟨_, hcell, hne⟩ hfrom hto⟩
    intro hleads
    obtain ⟨offset', span', hname, hfilled, hfrom, hto⟩ :=
      Dot.Graph.covers_of_leads hnests hleads
    -- The node that the path ends in is known by its name.
    obtain ⟨rfl, rfl⟩ := nodeName_inj.1 hname
    obtain ⟨cell, heq, hne⟩ := hfilled hspan
    exact ⟨Except.ok.inj (heq.symm.trans hcell) ▸ hne, hfrom, hto⟩
  · intro haccepts position hposition
    have hverdict : ((g.bits start).chart word).accepts = true :=
      Except.ok.inj ((accepts_eq_ok hrules hstart hword).symm.trans haccepts)
    -- A mask that holds the start symbol is not zero.
    have hmask : ((g.bits start).chart word).mask 0 word.length ≠ 0 := fun hzero => by
      have hand : (((g.bits start).chart word).mask 0 word.length &&&
          (g.bits start).bit (g.bits start).start != 0) = true := hverdict
      simp [hzero] at hand
    have hpos : 1 ≤ word.length := by omega
    have hfilled := (hwf.filled_iff start hword hpos (Nat.zero_add _).le).2 hmask
    exact hwf.leads_of_filled start hword hpos (Nat.zero_add _).le hfilled (Nat.zero_le _)
      (by omega)

/-- In the drawing of `aab` the first letter is connected to the cell of the whole word, although
the cell of the first two letters is empty and is not reached from it. -/
theorem leads_iff_covers_aab :
    let g : Grammar :=
      { nonterminals := ['S', 'A', 'B']
        terminals := ['a', 'b']
        start := some 'S'
        rules := [⟨'S', .pair 'A' 'B'⟩, ⟨'S', .pair 'A' 'S'⟩, ⟨'A', .terminal 'a'⟩,
          ⟨'B', .terminal 'b'⟩] }
    ∃ source graph, Dot.Graph.source <$> g.drawing ['a', 'a', 'b'] = .ok source ∧
      Dot.read? source.toList = some graph ∧ graph.Leads "c0_1" "c0_3" ∧
      ¬ graph.Leads "c0_1" "c0_2" := by
  intro g
  have hg : g.Reachable := .of_edits
    [.declareNonterminal (.text "S"), .declareNonterminal (.text "A"),
      .declareNonterminal (.text "B"), .declareTerminal (.text "a"), .declareTerminal (.text "b"),
      .setStart (.text "S"), .addRule (.text "S") (.text "AB"), .addRule (.text "S") (.text "AS"),
      .addRule (.text "A") (.text "a"), .addRule (.text "B") (.text "b")]
    (by decide +kernel)
  have hword : ∀ c ∈ ['a', 'a', 'b'], c ∈ g.terminals := by simp [g]
  obtain ⟨chart, source, graph, hchart, hsource, hread, hpaths, -, -, hwhole⟩ :=
    leads_iff_covers hg (List.cons_ne_nil _ _) (Option.some_ne_none _) hword
  have hempty : (fun chart : Chart => chart.cell 0 2) <$> g.chart ['a', 'a', 'b'] =
      .ok (.ok []) := by
    decide +kernel
  rw [hchart] at hempty
  refine ⟨source, graph, hsource, hread, hwhole (by decide +kernel) 0 (by decide), ?_⟩
  intro hleads
  obtain ⟨cell, hcell, hiff⟩ := hpaths 0 0 2 (by decide) (by decide) (by decide)
  exact (hiff.1 hleads).1 (Except.ok.inj (hcell.symm.trans (Except.ok.inj hempty)))

end Grammar

end CykChart
