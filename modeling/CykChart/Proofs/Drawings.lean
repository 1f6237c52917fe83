import CykChart.Proofs.DotReader
import CykChart.Proofs.Nodes

/-!
# Drawings show charts

The source of a drawing is read as a graph, and all that the chart says is found in it. There is a
node for each cell, in a rank for each length. There are two edges for each cut that some rule
joins, from the cells of its parts to the cell of the whole. The target of an edge tells the cell
and its source tells the cut, so no edge is drawn twice.

## Main definitions

- `Chart.Joined`: the cuts that some rule joins, by masks.
- `Chart.RuleJoins`: the same by what the cells list.
- `Chart.DrawnBy`: what a graph shows of a chart.

## Main results

- `Chart.mem_edges_iff`, `Chart.nodup_edges`: the edges are those of joined cuts, each drawn once.
- `Grammar.WellFormed.joined_iff`: which cuts those are.
- `BitGrammar.ranks_chart_eq_map`: the nodes are those of the cells, rank by rank.
- `Grammar.source_reads_as_chart`: the source of a drawing is read as a graph that shows the chart.
-/

namespace CykChart

open Chart (nodeName)
open Dot (Unescaped)

/-- Lists that share no member with one another and repeat none are joined without repetition. -/
theorem nodup_flatMap_of_unique {α β : Type} {as : List α} {f : α → List β} (has : as.Nodup)
    (hnodup : ∀ a ∈ as, (f a).Nodup)
    (hunique : ∀ a ∈ as, ∀ b ∈ as, ∀ x, x ∈ f a → x ∈ f b → a = b) : (as.flatMap f).Nodup := by
  refine List.nodup_flatMap.2 ⟨hnodup, ?_⟩
  refine List.Pairwise.imp_of_mem (fun {a b} ha hb hne => ?_) has
  exact fun x hxa hxb => hne (hunique a ha b hb x hxa hxb)

/-! ## Edges -/

namespace Chart

variable {chart : Chart} {offset span first : Nat} {edge : Dot.Edge}

/-- A stretch within the word that some rule joins from a proper cut. -/
structure Joined (chart : Chart) (offset span first : Nat) : Prop where
  first_pos : 1 ≤ first
  first_lt : first < span
  within : offset + span ≤ chart.word.length
  joinAt_ne_zero : chart.grammar.joinAt chart.rows offset span first ≠ 0

/-- The edges from the two parts of a cut. -/
def partEdges (offset span first : Nat) : List Dot.Edge :=
  [⟨nodeName offset first, nodeName offset span⟩,
    ⟨nodeName (offset + first) (span - first), nodeName offset span⟩]

/-- A cut is drawn as two edges, from its two parts to the whole. -/
theorem mem_partEdges_iff :
    edge ∈ partEdges offset span first ↔
      edge = ⟨nodeName offset first, nodeName offset span⟩ ∨
        edge = ⟨nodeName (offset + first) (span - first), nodeName offset span⟩ := by
  simp [partEdges]

/-- The edges of a cut are drawn when it joins something. -/
theorem mem_cutEdges_iff :
    edge ∈ chart.cutEdges offset span first ↔
      chart.grammar.joinAt chart.rows offset span first ≠ 0 ∧
        edge ∈ partEdges offset span first := by
  rw [cutEdges, partEdges]
  split
  next hzero => simp [hzero]
  next hne => simp [hne]

/-- The edges of a chart come from the parts of its joined cuts. -/
theorem mem_edges_iff :
    edge ∈ chart.edges ↔
      ∃ offset span first, chart.Joined offset span first ∧
        edge ∈ partEdges offset span first := by
  simp only [edges, List.mem_flatMap, List.mem_range'_1, List.mem_range, BitGrammar.cuts,
    mem_cutEdges_iff]
  constructor
  -- The three loops run over spans, offsets and cuts; the bounds say that the stretch lies in the
  -- word.
  · rintro ⟨span, hspan, offset, hoffset, first, hfirst, hne, hedge⟩
    exact ⟨offset, span, first, ⟨hfirst.1, by omega, by omega, hne⟩, hedge⟩
  · rintro ⟨offset, span, first, hjoined, hedge⟩
    have hfirst := hjoined.first_pos
    have hlt := hjoined.first_lt
    have hwithin := hjoined.within
    exact ⟨span, by omega, offset, by omega, first, by omega, hjoined.joinAt_ne_zero, hedge⟩

/-- An edge of a cut tells where it ends. -/
theorem target_of_mem_partEdges (h : edge ∈ partEdges offset span first) :
    edge.target = nodeName offset span := by
  rcases mem_partEdges_iff.1 h with rfl | rfl <;> rfl

/-- The two edges of a cut come from different offsets, and each tells the cut. -/
theorem first_unique_of_mem_partEdges {other : Nat} (h : edge ∈ partEdges offset span first)
    (h' : edge ∈ partEdges offset span other) (hfirst : 1 ≤ first) (hother : 1 ≤ other) :
    first = other := by
  rw [mem_partEdges_iff] at h h'
  rcases h with rfl | rfl <;> rcases h' with h' | h' <;>
    · have hsource := nodeName_inj.1 (congrArg Dot.Edge.source h')
      omega

/-- The parts of a cut are different stretches, so its two edges differ. -/
theorem nodup_partEdges (hfirst : 1 ≤ first) : (partEdges offset span first).Nodup := by
  have hne : nodeName offset first ≠ nodeName (offset + first) (span - first) := fun h => by
    have := nodeName_inj.1 h
    omega
  simp [partEdges, hne]

/-- No edge is drawn twice. -/
theorem nodup_edges (chart : Chart) : chart.edges.Nodup := by
  have hcutEdges : ∀ {offset span first}, 1 ≤ first →
      (chart.cutEdges offset span first).Nodup := fun hfirst => by
    rw [cutEdges]
    split
    · exact List.nodup_nil
    · exact nodup_partEdges hfirst
  have hpart : ∀ {edge offset span first}, edge ∈ chart.cutEdges offset span first →
      edge ∈ partEdges offset span first := fun h => (mem_cutEdges_iff.1 h).2
  -- The target tells the cell, and the source the cut.
  refine nodup_flatMap_of_unique (List.nodup_range' ..) (fun span _ => ?_) ?_
  · refine nodup_flatMap_of_unique List.nodup_range (fun offset _ => ?_) ?_
    · refine nodup_flatMap_of_unique (List.nodup_range' ..) (fun first hfirst => ?_) ?_
      · exact hcutEdges (List.mem_range'_1.1 hfirst).1
      · intro first hfirst other hother edge hedge hedge'
        exact first_unique_of_mem_partEdges (hpart hedge) (hpart hedge')
          (List.mem_range'_1.1 hfirst).1 (List.mem_range'_1.1 hother).1
    · intro offset _ other _ edge hedge hedge'
      obtain ⟨_, _, hcut⟩ := List.mem_flatMap.1 hedge
      obtain ⟨_, _, hcut'⟩ := List.mem_flatMap.1 hedge'
      have htarget := (target_of_mem_partEdges (hpart hcut)).symm.trans
        (target_of_mem_partEdges (hpart hcut'))
      exact (nodeName_inj.1 htarget).1
  · intro span _ other _ edge hedge hedge'
    obtain ⟨_, _, hrow⟩ := List.mem_flatMap.1 hedge
    obtain ⟨_, _, hcut⟩ := List.mem_flatMap.1 hrow
    obtain ⟨_, _, hrow'⟩ := List.mem_flatMap.1 hedge'
    obtain ⟨_, _, hcut'⟩ := List.mem_flatMap.1 hrow'
    have htarget := (target_of_mem_partEdges (hpart hcut)).symm.trans
      (target_of_mem_partEdges (hpart hcut'))
    exact (nodeName_inj.1 htarget).2

end Chart

/-! ## Nodes -/

namespace BitGrammar

variable {g : BitGrammar} {word : List Char}

/-- The ranks of a drawing are its nodes by length and offset. -/
theorem ranks_chart_eq_map (g : BitGrammar) (word : List Char) :
    (g.chart word).ranks = (List.range' 1 word.length).map fun span =>
      (List.range (word.length + 1 - span)).map fun offset =>
        (g.chart word).node offset span ((g.chart word).mask offset span) := by
  refine List.ext_getElem (by simp [Chart.ranks, chart]) fun index hindex _ => ?_
  simp only [Chart.ranks, List.getElem_mapIdx, List.getElem_map, List.getElem_range', Nat.one_mul,
    Nat.add_comm 1 index, Nat.add_sub_add_right, getElem_rows_chart]
  refine List.ext_getElem (by simp) fun offset hoffset _ => ?_
  simp

/-- The nodes of a rank are named after the stretches of its length, by offset. -/
theorem names_ranks_chart (g : BitGrammar) (word : List Char) :
    (g.chart word).ranks.map (·.map Dot.Node.name) = (List.range' 1 word.length).map fun span =>
      (List.range (word.length + 1 - span)).map fun offset => nodeName offset span := by
  rw [ranks_chart_eq_map, List.map_map]
  refine List.map_congr_left fun span _ => ?_
  rw [Function.comp_apply, List.map_map]
  rfl

/-- No two nodes have one name. -/
theorem nodup_names_chart (g : BitGrammar) (word : List Char) :
    ((g.chart word).ranks.flatten.map Dot.Node.name).Nodup := by
  rw [List.map_flatten, names_ranks_chart, ← List.flatMap_def]
  refine nodup_flatMap_of_unique (List.nodup_range' ..) (fun span _ => ?_) ?_
  · exact List.nodup_range.map fun offset other h => (nodeName_inj.1 h).1
  · intro span _ other _ name hname hname'
    obtain ⟨_, -, rfl⟩ := List.mem_map.1 hname
    obtain ⟨_, -, hsame⟩ := List.mem_map.1 hname'
    exact (nodeName_inj.1 hsame).2.symm

/-- There are as many nodes as the word has nonempty stretches. -/
theorem length_nodes_chart (g : BitGrammar) (word : List Char) :
    (g.chart word).ranks.flatten.length = word.length * (word.length + 1) / 2 := by
  rw [ranks_chart_eq_map, List.length_flatten, List.map_map, ← sum_map_range']
  refine congrArg List.sum (List.map_congr_left fun span _ => ?_)
  rw [Function.comp_apply, List.length_map, List.length_range]

/-- Each stretch has its node, made from its mask. -/
theorem node_mem_ranks {offset span : Nat} (hspan : 1 ≤ span)
    (hstretch : offset + span ≤ word.length) :
    (g.chart word).node offset span ((g.chart word).mask offset span) ∈
      (g.chart word).ranks.flatten := by
  rw [ranks_chart_eq_map]
  refine List.mem_flatten.2 ⟨_, List.mem_map.2 ⟨span, List.mem_range'_1.2 (by omega), rfl⟩, ?_⟩
  exact List.mem_map.2 ⟨offset, List.mem_range.2 (by omega), rfl⟩

/-- Each node is that of a cell. -/
theorem exists_of_mem_ranks {node : Dot.Node} (h : node ∈ (g.chart word).ranks.flatten) :
    ∃ offset span, 1 ≤ span ∧ offset + span ≤ word.length ∧
      node = (g.chart word).node offset span ((g.chart word).mask offset span) := by
  rw [ranks_chart_eq_map, ← List.flatMap_def] at h
  obtain ⟨span, hspan, hrow⟩ := List.mem_flatMap.1 h
  obtain ⟨offset, hoffset, rfl⟩ := List.mem_map.1 hrow
  rw [List.mem_range'_1] at hspan
  rw [List.mem_range] at hoffset
  exact ⟨offset, span, hspan.1, by omega, rfl⟩

end BitGrammar

/-! ## Texts -/

namespace Chart

variable {chart : Chart}

/-- The caption of a drawing. -/
def caption (chart : Chart) : String :=
  "CYK table for '" ++ String.ofList chart.word ++ "'"

/-- The caption of a word of symbols needs no escapes. -/
theorem unescaped_caption (hword : ∀ c ∈ chart.word, IsSymbol c) : Unescaped chart.caption := by
  have hfront : Unescaped "CYK table for '" := by decide +kernel
  have hback : Unescaped "'" := by decide +kernel
  refine Dot.unescaped_iff.2 fun c hc => ?_
  unfold caption at hc
  rw [String.toList_append, String.toList_append, List.mem_append, List.mem_append] at hc
  rcases hc with (hbefore | hletter) | hafter
  · exact Dot.unescaped_iff.1 hfront c hbefore
  · rw [String.toList_ofList] at hletter
    exact (hword c hletter).unescaped
  · exact Dot.unescaped_iff.1 hback c hafter

/-- The attributes of a drawing are the same for all charts, but for the caption. -/
theorem unescaped_attributes (hword : ∀ c ∈ chart.word, IsSymbol c) :
    ∀ text ∈ (chart.drawing.attributes ++ chart.drawing.nodeDefaults ++
      chart.drawing.edgeDefaults).flatMap Dot.Attribute.texts, Unescaped text := by
  -- The caption is the value of the fifth attribute, and the only text that is not fixed.
  have hbefore : ∀ text ∈ (chart.drawing.attributes.take 4).flatMap Dot.Attribute.texts,
      Unescaped text := of_decide_eq_true rfl
  have hcaption : ∀ text ∈ ["label", chart.caption], Unescaped text := by
    simp [unescaped_caption hword, show Unescaped "label" by decide +kernel]
  have hafter : ∀ text ∈ (chart.drawing.attributes.drop 5).flatMap Dot.Attribute.texts,
      Unescaped text := of_decide_eq_true rfl
  have hdefaults : ∀ text ∈ (chart.drawing.nodeDefaults ++ chart.drawing.edgeDefaults).flatMap
      Dot.Attribute.texts, Unescaped text := of_decide_eq_true rfl
  intro text htext
  have hparts : text ∈ (chart.drawing.attributes.take 4).flatMap Dot.Attribute.texts ++
      (["label", chart.caption] ++ ((chart.drawing.attributes.drop 5).flatMap Dot.Attribute.texts ++
        (chart.drawing.nodeDefaults ++ chart.drawing.edgeDefaults).flatMap
          Dot.Attribute.texts)) := htext
  simp only [List.mem_append] at hparts
  rcases hparts with h | h | h | h
  · exact hbefore text h
  · exact hcaption text h
  · exact hafter text h
  · exact hdefaults text h

end Chart

/-! ## Graphs of filled charts -/

/-- Some rule has its first symbol in the cell of the first part of a cut and its second symbol in
the cell of the other part. -/
def Chart.RuleJoins (chart : Chart) (rules : List Rule) (offset span first : Nat) : Prop :=
  ∃ head left right, ⟨head, .pair left right⟩ ∈ rules ∧
    (∃ cell, chart.cell offset first = .ok cell ∧ left ∈ cell) ∧
    ∃ cell, chart.cell (offset + first : Nat) (span - first : Nat) = .ok cell ∧ right ∈ cell

/-- What a graph shows of a chart that was filled with rules. -/
structure Chart.DrawnBy (chart : Chart) (rules : List Rule) (graph : Dot.Graph) : Prop where
  /-- There is a rank for each length, and in it a node for each offset. -/
  names : graph.ranks.map (·.map Dot.Node.name) =
    (List.range' 1 chart.word.length).map fun span =>
      (List.range (chart.word.length + 1 - span)).map fun offset => nodeName offset span
  /-- No two nodes share an identifier. -/
  names_nodup : (graph.ranks.flatten.map Dot.Node.name).Nodup
  /-- There are as many nodes as cells in a triangle. -/
  length_nodes : graph.ranks.flatten.length = chart.word.length * (chart.word.length + 1) / 2
  /-- Each node shows its cell. -/
  shows : ∀ offset span : Nat, 1 ≤ span → offset + span ≤ chart.word.length →
    ∃ cell label colour, chart.cell offset span = .ok cell ∧
      ⟨nodeName offset span, [⟨"label", label⟩, ⟨"fillcolor", colour⟩]⟩ ∈ graph.ranks.flatten ∧
      chart.Shows offset span cell label colour
  /-- No edge is drawn twice. -/
  edges_nodup : graph.edges.Nodup
  /-- The edges lead from the parts of cuts that a rule joins. -/
  mem_edges_iff : ∀ edge, edge ∈ graph.edges ↔
    ∃ offset span first : Nat, offset + span ≤ chart.word.length ∧ 1 ≤ first ∧ first < span ∧
      chart.RuleJoins rules offset span first ∧
      (edge = ⟨nodeName offset first, nodeName offset span⟩ ∨
        edge = ⟨nodeName (offset + first) (span - first), nodeName offset span⟩)
  /-- Edges lead into the cells of several symbols that are not empty. -/
  exists_edge_iff : ∀ offset span : Nat, 2 ≤ span → offset + span ≤ chart.word.length →
    ((∃ source, ⟨source, nodeName offset span⟩ ∈ graph.edges) ↔ chart.Filled offset span)
  /-- No text needs an escape between quotes. -/
  unescaped : ∀ text ∈ graph.texts, Unescaped text

/-- The source of a graph that shows a chart is read back. -/
theorem Chart.DrawnBy.read?_source {chart : Chart} {rules : List Rule} {graph : Dot.Graph}
    (h : chart.DrawnBy rules graph) : Dot.read? graph.source.toList = some graph :=
  Dot.read?_source fun text htext => (h.unescaped text htext).2

namespace BitGrammar

variable {g : BitGrammar} {word : List Char} {offset span : Nat}

/-- No text of a drawing needs an escape between quotes. -/
theorem unescaped_texts (hsymbols : ∀ c ∈ g.nonterminals, IsSymbol c)
    (hword : ∀ c ∈ word, IsSymbol c) :
    ∀ text ∈ (g.chart word).drawing.texts, Unescaped text := by
  have hname : Unescaped "CYK" := by decide +kernel
  refine List.forall_mem_cons.2 ⟨hname, List.forall_mem_append.2 ⟨?_, List.forall_mem_append.2
    ⟨fun text htext => ?_, fun text htext => ?_⟩⟩⟩
  · exact Chart.unescaped_attributes hword
  · obtain ⟨node, hnode, hin⟩ := List.mem_flatMap.1 htext
    obtain ⟨offset, span, -, -, rfl⟩ := exists_of_mem_ranks hnode
    have hlabel : Unescaped ((g.chart word).label offset span ((g.chart word).mask offset span)) :=
      Chart.unescaped_label hword fun c hc => hsymbols c (mem_of_mem_symbols hc)
    -- The texts of a node are its name and its two attributes.
    have hcases : text = nodeName offset span ∨ text = "label" ∨
        text = (g.chart word).label offset span ((g.chart word).mask offset span) ∨
        text = "fillcolor" ∨
        text = (g.chart word).colour span ((g.chart word).mask offset span) := by
      simpa [Chart.node, Dot.Node.texts, Dot.Attribute.texts] using hin
    rcases hcases with rfl | rfl | rfl | rfl | rfl
    · exact unescaped_nodeName _ _
    · decide +kernel
    · exact hlabel
    · decide +kernel
    · exact Chart.unescaped_colour _ _ _
  · obtain ⟨edge, hedge, hin⟩ := List.mem_flatMap.1 htext
    obtain ⟨offset, span, first, -, hpart⟩ := Chart.mem_edges_iff.1 hedge
    rw [Chart.mem_partEdges_iff] at hpart
    rcases hpart with rfl | rfl <;>
      · rcases List.mem_pair.1 hin with rfl | rfl <;> exact unescaped_nodeName _ _

/-- Edges lead into the cells of several symbols whose masks are not zero. -/
theorem exists_edge_iff (hspan : 2 ≤ span) (hstretch : offset + span ≤ word.length) :
    (∃ source, ⟨source, nodeName offset span⟩ ∈ (g.chart word).edges) ↔
      (g.chart word).mask offset span ≠ 0 := by
  rw [mask_ne_zero_iff hspan hstretch]
  constructor
  · rintro ⟨source, hedge⟩
    obtain ⟨offset', span', first, hjoined, hpart⟩ := Chart.mem_edges_iff.1 hedge
    -- An edge into this node belongs to this stretch, since names tell stretches apart.
    obtain ⟨rfl, rfl⟩ := nodeName_inj.1 (Chart.target_of_mem_partEdges hpart)
    have hfirst : first ∈ cuts span :=
      List.mem_range'_1.2 ⟨hjoined.first_pos, by have := hjoined.first_lt; omega⟩
    exact ⟨first, hfirst, hjoined.joinAt_ne_zero⟩
  · rintro ⟨first, hfirst, hne⟩
    rw [cuts, List.mem_range'_1] at hfirst
    have hjoined : (g.chart word).Joined offset span first :=
      ⟨hfirst.1, by omega, hstretch, hne⟩
    exact ⟨_, Chart.mem_edges_iff.2 ⟨_, _, _, hjoined, List.mem_cons_self⟩⟩

end BitGrammar

namespace Grammar

variable {g : Grammar} {word : List Char} {offset span first : Nat}

/-- A question for a drawing is answered by a grammar that is ready. -/
theorem drawing_eq_ok {start : Char} (hrules : g.rules ≠ []) (hstart : g.start = some start)
    (hword : ∀ c ∈ word, c ∈ g.terminals) :
    g.drawing word = .ok ((g.bits start).chart word).drawing := by
  rw [drawing, chart_eq_ok hrules hstart hword]
  rfl

/-- So is one for the source of a drawing. -/
theorem source_eq_ok {start : Char} (hrules : g.rules ≠ []) (hstart : g.start = some start)
    (hword : ∀ c ∈ word, c ∈ g.terminals) :
    Dot.Graph.source <$> g.drawing word = .ok ((g.bits start).chart word).drawing.source := by
  rw [drawing_eq_ok hrules hstart hword]
  rfl

namespace WellFormed

/-- A cut is joined when a rule has its two symbols in the cells of the two parts. -/
theorem joined_iff (hg : g.WellFormed) (start : Char) :
    ((g.bits start).chart word).Joined offset span first ↔
      offset + span ≤ word.length ∧ 1 ≤ first ∧ first < span ∧
        ((g.bits start).chart word).RuleJoins g.rules offset span first := by
  constructor
  · rintro ⟨hpos, hlt, hwithin, hne⟩
    have hwithin : offset + span ≤ word.length := hwithin
    obtain ⟨head, left, right, hrule, hleft, hright⟩ := (hg.joinAt_ne_zero_iff start).1 hne
    exact ⟨hwithin, hpos, hlt, head, left, right, hrule,
      (Chart.exists_cell_iff hpos (show offset + first ≤ word.length by omega)).2 hleft,
      (Chart.exists_cell_iff (by omega)
        (show offset + first + (span - first) ≤ word.length by omega)).2 hright⟩
  · rintro ⟨hwithin, hpos, hlt, head, left, right, hrule, hleft, hright⟩
    refine ⟨hpos, hlt, hwithin, (hg.joinAt_ne_zero_iff start).2 ?_⟩
    exact ⟨head, left, right, hrule,
      (Chart.exists_cell_iff hpos (show offset + first ≤ word.length by omega)).1 hleft,
      (Chart.exists_cell_iff (by omega)
        (show offset + first + (span - first) ≤ word.length by omega)).1 hright⟩

/-- The drawing of a filled chart shows its cells, and the cuts that rules join. -/
theorem drawnBy_drawing (hg : g.WellFormed) (start : Char)
    (hword : ∀ c ∈ word, c ∈ g.terminals) :
    ((g.bits start).chart word).DrawnBy g.rules ((g.bits start).chart word).drawing where
  names := (g.bits start).names_ranks_chart word
  names_nodup := (g.bits start).nodup_names_chart word
  length_nodes := (g.bits start).length_nodes_chart word
  shows offset span hspan hstretch :=
    ⟨_, _, _, Chart.cell_eq_ok hspan hstretch, BitGrammar.node_mem_ranks hspan hstretch,
      hg.shows_cell start hword hspan hstretch⟩
  edges_nodup := Chart.nodup_edges _
  mem_edges_iff edge := by
    refine Chart.mem_edges_iff.trans (exists_congr fun offset => exists_congr fun span =>
      exists_congr fun first => ?_)
    rw [hg.joined_iff, Chart.mem_partEdges_iff, and_assoc, and_assoc, and_assoc]
    rfl
  exists_edge_iff offset span hspan hstretch := by
    have hpos : 1 ≤ span := by omega
    exact (BitGrammar.exists_edge_iff hspan hstretch).trans
      (hg.filled_iff start hword hpos hstretch).symm
  unescaped := BitGrammar.unescaped_texts (hg.isSymbol_of_mem_bits start)
    fun c hc => .inr (hg.lower c (hword c hc))

end WellFormed

/-- The drawing of a word over the terminals of a reachable grammar that is ready: its source is
read as a graph with a node for each cell of the chart, which shows the symbols of the cell and
whether the word is accepted, and with the edges from the parts of every cut that a rule joins. -/
theorem source_reads_as_chart (hg : g.Reachable) (hrules : g.rules ≠ []) (hready : g.start ≠ none)
    (hword : ∀ c ∈ word, c ∈ g.terminals) :
    ∃ chart source graph, g.chart word = .ok chart ∧ chart.word = word ∧
      g.accepts word = .ok chart.accepts ∧ Dot.Graph.source <$> g.drawing word = .ok source ∧
      Dot.read? source.toList = some graph ∧ chart.DrawnBy g.rules graph := by
  have hwf := hg.wellFormed
  obtain ⟨start, hstart⟩ := Option.ne_none_iff_exists'.1 hready
  have hdrawn := hwf.drawnBy_drawing start hword
  exact ⟨_, _, _, chart_eq_ok hrules hstart hword, rfl, accepts_eq_ok hrules hstart hword,
    source_eq_ok hrules hstart hword, hdrawn.read?_source, hdrawn⟩

/-- In the drawing of `aab` edges lead from the last two letters to the cell above them, which holds
the start symbol, and no edge leads to the empty cell of `aa`. -/
theorem source_reads_as_chart_aab :
    let g : Grammar :=
      { nonterminals := ['S', 'A', 'B']
        terminals := ['a', 'b']
        start := some 'S'
        rules := [⟨'S', .pair 'A' 'B'⟩, ⟨'S', .pair 'A' 'S'⟩, ⟨'A', .terminal 'a'⟩,
          ⟨'B', .terminal 'b'⟩] }
    ∃ source graph, Dot.Graph.source <$> g.drawing ['a', 'a', 'b'] = .ok source ∧
      Dot.read? source.toList = some graph ∧ graph.ranks.flatten.length = 6 ∧
      (∃ name, ⟨name, "c1_2"⟩ ∈ graph.edges) ∧ ¬ ∃ name, ⟨name, "c0_2"⟩ ∈ graph.edges := by
  intro g
  have hg : g.Reachable := .of_edits
    [.declareNonterminal (.text "S"), .declareNonterminal (.text "A"),
      .declareNonterminal (.text "B"), .declareTerminal (.text "a"), .declareTerminal (.text "b"),
      .setStart (.text "S"), .addRule (.text "S") (.text "AB"), .addRule (.text "S") (.text "AS"),
      .addRule (.text "A") (.text "a"), .addRule (.text "B") (.text "b")]
    (by decide +kernel)
  have hword : ∀ c ∈ ['a', 'a', 'b'], c ∈ g.terminals := by simp [g]
  obtain ⟨chart, source, graph, hchart, hsame, -, hsource, hread, hdrawn⟩ :=
    source_reads_as_chart hg (List.cons_ne_nil _ _) (Option.some_ne_none _) hword
  have hlength : chart.word.length = 3 := congrArg List.length hsame
  have hcells : (fun chart : Chart => (chart.cell 1 2, chart.cell 0 2)) <$>
      g.chart ['a', 'a', 'b'] = .ok (.ok ['S'], .ok []) := by
    decide +kernel
  rw [hchart] at hcells
  obtain ⟨hfull, hempty⟩ := Prod.mk.inj (Except.ok.inj hcells)
  refine ⟨source, graph, hsource, hread, ?_, ?_, ?_⟩
  · rw [hdrawn.length_nodes, hlength]
  · exact (hdrawn.exists_edge_iff 1 2 (by decide) (by omega)).2
      ⟨_, hfull, List.cons_ne_nil _ _⟩
  · intro hedge
    obtain ⟨cell, hcell, hne⟩ := (hdrawn.exists_edge_iff 0 2 (by decide) (by omega)).1 hedge
    exact hne (Except.ok.inj (hcell.symm.trans hempty))

end Grammar

end CykChart
