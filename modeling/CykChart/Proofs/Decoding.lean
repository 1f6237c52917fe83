import CykChart.Proofs.Cells

/-!
# The rules that masks stand for

A grammar over masks keeps its rules in two places: the heads of a terminal are the bits of one
mask, and each rule with a pair is a triple of bits. Nothing is lost on the way and nothing is
invented. Different nonterminals have different bits, so each triple tells its rule, and each bit of
a mask tells the head of one.

## Main definitions

- `BitGrammar.rules`: the rules that a grammar over masks stands for.
- `Grammar.EncodedAs`: a grammar over masks says just what a grammar says.

## Main results

- `Grammar.WellFormed.count_bitRules`: there is one triple for each rule with a pair.
- `Grammar.WellFormed.mem_rules_bits_iff`: the rules are read off the masks.
- `Grammar.toBits_encodes`: grammars that are equal over masks have the same rules.
-/

namespace CykChart

namespace BitGrammar

/-- The rules that the mask of a terminal stands for: one for each head in it. -/
def rulesOfEntry (g : BitGrammar) (entry : Char × Nat) : List Rule :=
  (g.symbols entry.2).map fun head => ⟨head, .terminal entry.1⟩

/-- The rules that a triple of masks stands for: one for each way to choose a head and a pair. -/
def rulesOfBits (g : BitGrammar) (rule : BitRule) : List Rule :=
  (g.symbols rule.head).flatMap fun head =>
    (g.symbols rule.left).flatMap fun left =>
      (g.symbols rule.right).map fun right => ⟨head, .pair left right⟩

/-- The rules that a grammar over masks stands for. -/
def rules (g : BitGrammar) : List Rule :=
  g.unary.flatMap g.rulesOfEntry ++ g.binary.flatMap g.rulesOfBits

end BitGrammar

/-- A rule over the bits of a numbering; none for a rule with a terminal. -/
def Rule.overBits (numbering : List Char) (rule : Rule) : Option BitRule :=
  match rule.body with
  | .terminal _ => none
  | .pair left right =>
    some ⟨bitIn numbering left, bitIn numbering right, bitIn numbering rule.head⟩

/-- Numbered symbols have different bits. -/
theorem bitIn_inj {numbering : List Char} {c d : Char} (hc : c ∈ numbering) :
    bitIn numbering c = bitIn numbering d ↔ c = d := by
  constructor
  · intro h
    have hbit : (bitIn numbering d).testBit (numbering.idxOf c) = true :=
      h ▸ testBit_bitIn_iff.2 rfl
    exact ((List.idxOf_inj hc).1 (testBit_bitIn_iff.1 hbit).symm)
  · exact fun h => congrArg _ h

namespace Grammar

variable {g h : Grammar} {start head left right terminal : Char}

/-! ## The masks of terminals -/

/-- The mask that is kept for a terminal is that of its heads. -/
theorem snd_eq_of_mem_unaryMasks {numbering : List Char} {entry : Char × Nat}
    (hentry : entry ∈ g.unaryMasks numbering) :
    entry.2 = maskIn numbering (g.headsOf entry.1) := by
  rw [unaryMasks, List.mem_filterMap] at hentry
  obtain ⟨terminal, -, hkept⟩ := hentry
  split at hkept
  next => exact absurd hkept (by simp)
  next => exact Option.some.inj hkept ▸ rfl

/-- The terminals with a mask are those with heads. -/
theorem map_fst_unaryMasks (g : Grammar) (numbering : List Char) :
    (g.unaryMasks numbering).map Prod.fst =
      (sortBy symbolLe g.terminals).filter fun terminal => !(g.headsOf terminal).isEmpty := by
  rw [unaryMasks, List.map_filterMap, ← List.filterMap_eq_filter]
  refine List.filterMap_congr fun terminal _ => ?_
  cases hheads : g.headsOf terminal with
  | nil => simp [Option.guard, hheads]
  | cons head rest => simp [Option.guard, hheads]

/-- No terminal has two masks. -/
theorem WellFormed.nodup_terminals_unaryMasks (hg : g.WellFormed) (numbering : List Char) :
    ((g.unaryMasks numbering).map Prod.fst).Nodup := by
  rw [map_fst_unaryMasks]
  exact ((sortBy_perm _ _).nodup_iff.2 hg.terminals_nodup).filter _

/-- The terminals with heads are those that are the body of some nonterminal. -/
theorem WellFormed.mem_terminals_unaryMasks_iff (hg : g.WellFormed) {numbering : List Char} :
    terminal ∈ (g.unaryMasks numbering).map Prod.fst ↔
      ∃ head, .terminal terminal ∈ g.bodies head := by
  simp only [map_fst_unaryMasks, List.mem_filter, mem_sortBy, Bool.not_eq_true',
    List.isEmpty_eq_false_iff, mem_bodies]
  constructor
  · rintro ⟨-, hne⟩
    obtain ⟨head, hhead⟩ := List.exists_mem_of_ne_nil _ hne
    exact ⟨head, (mem_headsOf.1 hhead).2⟩
  · rintro ⟨head, hrule⟩
    have hhead : head ∈ g.headsOf terminal := mem_headsOf.2 ⟨hg.head_mem _ hrule, hrule⟩
    exact ⟨hg.body_mem _ hrule, List.ne_nil_of_mem hhead⟩

/-- The mask of a terminal reads back as the heads of its rules. -/
theorem WellFormed.mem_symbols_entry_iff (hg : g.WellFormed) {entry : Char × Nat}
    (hentry : entry ∈ (g.bits start).unary) :
    head ∈ (g.bits start).symbols entry.2 ↔ .terminal entry.1 ∈ g.bodies head := by
  have hmask : entry.2 = maskIn (g.bits start).nonterminals (g.headsOf entry.1) :=
    snd_eq_of_mem_unaryMasks hentry
  have hsub : g.headsOf entry.1 ⊆ (g.bits start).nonterminals := fun c hc =>
    mem_bits_nonterminals.2 (mem_headsOf.1 hc).1
  have hhas : (g.bits start).has entry.2 head = true ↔ head ∈ g.headsOf entry.1 := by
    rw [hmask]
    exact testBit_maskIn_iff hsub
  rw [BitGrammar.mem_symbols_iff hg.bits_nodup, hhas, mem_bits_nonterminals, mem_headsOf,
    mem_bodies]
  exact ⟨fun hboth => hboth.2.2, fun hrule => ⟨hg.head_mem _ hrule, hg.head_mem _ hrule, hrule⟩⟩

/-! ## The triples of rules with pairs -/

/-- The triples stand in the order of the rules head by head. -/
theorem bitRules_eq_filterMap (g : Grammar) (numbering : List Char) :
    g.bitRules numbering = g.rulesByHead.filterMap (Rule.overBits numbering) := by
  rw [bitRules, rulesByHead, List.filterMap_flatMap]
  refine List.flatMap_congr fun head _ => ?_
  rw [← map_mk_bodies, List.filterMap_map]
  refine List.filterMap_congr fun body _ => ?_
  cases body <;> rfl

/-- Listing rules by heads only changes their order. -/
theorem WellFormed.perm_rulesByHead (hg : g.WellFormed) : g.rulesByHead.Perm g.rules :=
  (List.perm_ext_iff_of_nodup hg.nodup_rulesByHead hg.rules_nodup).2 fun _ => hg.mem_rulesByHead

/-- The triple of a rule with a pair belongs to no other rule of the grammar. -/
theorem WellFormed.overBits_eq_some_iff (hg : g.WellFormed) {rule : Rule}
    (hrule : rule ∈ g.rules) :
    rule.overBits (g.bits start).nonterminals =
        some ⟨(g.bits start).bit left, (g.bits start).bit right, (g.bits start).bit head⟩ ↔
      rule = ⟨head, .pair left right⟩ := by
  obtain ⟨other, body⟩ := rule
  have hother : other ∈ g.nonterminals := hg.head_mem _ hrule
  cases body with
  | terminal symbol => simp [Rule.overBits]
  | pair first second =>
    obtain ⟨hfirst, hsecond⟩ : first ∈ g.nonterminals ∧ second ∈ g.nonterminals :=
      hg.body_mem _ hrule
    -- Bits of declared symbols are equal only for equal symbols.
    simp only [Rule.overBits, BitGrammar.bit, Option.some.injEq, BitRule.mk.injEq,
      bitIn_inj (mem_bits_nonterminals.2 hother), bitIn_inj (mem_bits_nonterminals.2 hfirst),
      bitIn_inj (mem_bits_nonterminals.2 hsecond), Rule.mk.injEq, Body.pair.injEq]
    exact and_rotate.symm

/-- A rule with a pair has one triple, and a pair that is no body has none. -/
theorem WellFormed.count_bitRules (hg : g.WellFormed) (head left right : Char) :
    (g.bits start).binary.count
        ⟨(g.bits start).bit left, (g.bits start).bit right, (g.bits start).bit head⟩ =
      if .pair left right ∈ g.bodies head then 1 else 0 := by
  obtain ⟨triple, htriple⟩ : ∃ triple : BitRule,
      triple = ⟨(g.bits start).bit left, (g.bits start).bit right, (g.bits start).bit head⟩ :=
    ⟨_, rfl⟩
  -- Only rules of the grammar are put over bits, and among those the triple tells the rule.
  have hsame : ∀ rule ∈ g.rules,
      (rule.overBits (g.bits start).nonterminals == some triple) = true ↔
        (rule == ⟨head, .pair left right⟩) = true := by
    intro rule hrule
    rw [beq_iff_eq, beq_iff_eq, htriple]
    exact hg.overBits_eq_some_iff hrule
  calc (g.bits start).binary.count _
      = g.rulesByHead.countP fun rule =>
          rule.overBits (g.bits start).nonterminals == some triple := by
        rw [← htriple, ← List.count_filterMap, ← bitRules_eq_filterMap]
        rfl
    _ = g.rules.countP fun rule => rule.overBits (g.bits start).nonterminals == some triple :=
        hg.perm_rulesByHead.countP_eq _
    _ = g.rules.count ⟨head, .pair left right⟩ := by
        rw [List.count_eq_countP]
        exact List.countP_congr hsame
    _ = if .pair left right ∈ g.bodies head then 1 else 0 := by
        rw [hg.rules_nodup.count]
        simp only [mem_bodies]

/-- There are as many triples as bodies of two symbols. -/
theorem WellFormed.length_bitRules (hg : g.WellFormed) (numbering : List Char) :
    (g.bitRules numbering).length =
      g.rules.countP fun rule => rule.body.symbols.length == 2 := by
  rw [bitRules_eq_filterMap, List.length_filterMap_eq_countP, hg.perm_rulesByHead.countP_eq]
  refine List.countP_congr fun rule _ => ?_
  obtain ⟨other, body⟩ := rule
  cases body <;> simp [Rule.overBits, Body.symbols]

/-! ## Reading the rules off -/

/-- The bit of a nonterminal reads back as it alone. -/
theorem WellFormed.symbols_bit (hg : g.WellFormed) {c : Char} (hc : c ∈ g.nonterminals) {d : Char} :
    d ∈ (g.bits start).symbols ((g.bits start).bit c) ↔ d = c := by
  have hhas : (g.bits start).has ((g.bits start).bit c) d = true ↔ d = c := has_bitIn_iff hc
  rw [BitGrammar.mem_symbols_iff hg.bits_nodup, hhas, mem_bits_nonterminals]
  exact and_iff_right_of_imp fun hd => hd ▸ hc

/-- The rules are read off the masks. -/
theorem WellFormed.mem_rules_bits_iff (hg : g.WellFormed) {rule : Rule} :
    rule ∈ (g.bits start).rules ↔ rule ∈ g.rules := by
  simp only [BitGrammar.rules, BitGrammar.rulesOfEntry, BitGrammar.rulesOfBits, List.mem_append,
    List.mem_flatMap, List.mem_map]
  constructor
  · rintro (⟨entry, hentry, head, hhead, rfl⟩ | ⟨triple, htriple, head, hhead, left, hleft, right,
      hright, rfl⟩)
    · exact mem_bodies.1 ((hg.mem_symbols_entry_iff hentry).1 hhead)
    · -- Each mask of a triple is the bit of one symbol of its rule.
      obtain ⟨a, b, c, ha, hrule, rfl⟩ := mem_bitRules_iff.1 htriple
      obtain ⟨hb, hc⟩ : b ∈ g.nonterminals ∧ c ∈ g.nonterminals := hg.body_mem _ hrule
      rw [(hg.symbols_bit ha).1 hhead, (hg.symbols_bit hb).1 hleft, (hg.symbols_bit hc).1 hright]
      exact hrule
  · intro hrule
    have hhead : rule.head ∈ g.nonterminals := hg.head_mem rule hrule
    obtain ⟨head, _ | _⟩ := rule
    case terminal symbol =>
      -- The entry of the terminal lists the heads that have it as a body.
      have hbody : .terminal symbol ∈ g.bodies head := mem_bodies.2 hrule
      obtain ⟨entry, hentry, rfl⟩ :=
        List.mem_map.1 ((hg.mem_terminals_unaryMasks_iff).2 ⟨head, hbody⟩)
      exact .inl ⟨entry, hentry, head, (hg.mem_symbols_entry_iff hentry).2 hbody, rfl⟩
    case pair left right =>
      obtain ⟨hleft, hright⟩ : left ∈ g.nonterminals ∧ right ∈ g.nonterminals :=
        hg.body_mem _ hrule
      exact .inr ⟨_, mem_bitRules_iff.2 ⟨head, left, right, hhead, hrule, rfl⟩,
        head, (hg.symbols_bit hhead).2 rfl, left, (hg.symbols_bit hleft).2 rfl,
        right, (hg.symbols_bit hright).2 rfl, rfl⟩

/-! ## The grammar over masks as a whole -/

/-- A grammar over masks says just what a grammar says: nothing is lost and nothing is added. -/
structure EncodedAs (g : Grammar) (c : BitGrammar) : Prop where
  /-- The nonterminals are numbered in ascending order. -/
  nonterminals_ascending : c.nonterminals.Pairwise (· < ·)
  /-- They are the declared ones. -/
  nonterminals_perm : c.nonterminals.Perm g.nonterminals
  /-- The terminals keep their order. -/
  terminals_eq : c.terminals = g.terminals
  /-- The start symbol is kept. -/
  start_eq : g.start = some c.start
  /-- No terminal has two masks. -/
  unary_nodup : (c.unary.map Prod.fst).Nodup
  /-- The terminals with a mask are those that are the body of some rule. -/
  mem_unary_iff : ∀ terminal,
    terminal ∈ c.unary.map Prod.fst ↔ ∃ head, .terminal terminal ∈ g.bodies head
  /-- The mask of a terminal holds the heads with this body. -/
  mem_symbols_iff : ∀ entry ∈ c.unary, ∀ head,
    head ∈ c.symbols entry.2 ↔ .terminal entry.1 ∈ g.bodies head
  /-- A pair that is a body of a head has one triple, and any other pair has none. -/
  count_binary : ∀ head ∈ g.nonterminals, ∀ left ∈ g.nonterminals, ∀ right ∈ g.nonterminals,
    c.binary.count ⟨c.bit left, c.bit right, c.bit head⟩ =
      if .pair left right ∈ g.bodies head then 1 else 0
  /-- There are no triples but those of nonterminals. -/
  exists_of_mem_binary : ∀ triple ∈ c.binary,
    ∃ head ∈ g.nonterminals, ∃ left ∈ g.nonterminals, ∃ right ∈ g.nonterminals,
      triple = ⟨c.bit left, c.bit right, c.bit head⟩
  /-- There are as many triples as bodies of two symbols. -/
  length_binary : c.binary.length = g.rules.countP fun rule => rule.body.symbols.length == 2
  /-- The rules can be read off. -/
  mem_rules_iff : ∀ rule, rule ∈ c.rules ↔ rule ∈ g.rules

/-- The grammar over masks is a faithful picture of the grammar. -/
theorem WellFormed.encodedAs_bits (hg : g.WellFormed) (hstart : g.start = some start) :
    g.EncodedAs (g.bits start) where
  nonterminals_ascending := hg.pairwise_bits start
  nonterminals_perm := sortBy_perm _ _
  terminals_eq := rfl
  start_eq := hstart
  unary_nodup := hg.nodup_terminals_unaryMasks _
  mem_unary_iff _ := hg.mem_terminals_unaryMasks_iff
  mem_symbols_iff _ hentry _ := hg.mem_symbols_entry_iff hentry
  count_binary head _ left _ right _ := hg.count_bitRules head left right
  exists_of_mem_binary triple htriple := by
    obtain ⟨head, left, right, hhead, hrule, rfl⟩ := mem_bitRules_iff.1 htriple
    obtain ⟨hleft, hright⟩ : left ∈ g.nonterminals ∧ right ∈ g.nonterminals :=
      hg.body_mem _ hrule
    exact ⟨head, hhead, left, hleft, right, hright, rfl⟩
  length_binary := hg.length_bitRules _
  mem_rules_iff _ := hg.mem_rules_bits_iff

/-- A reachable grammar that is ready is put over masks without loss and without anything new. So
another reachable grammar that is equal to it over masks has under every head the same rules. -/
theorem toBits_encodes (hg : g.Reachable) (hrules : g.rules ≠ []) (hready : g.start ≠ none) :
    (∃ c, g.toBits = .ok c ∧ g.EncodedAs c) ∧
      ∀ h : Grammar, h.Reachable → h.toBits = g.toBits →
        ∀ head, (h.bodies head).Perm (g.bodies head) := by
  have hwf := hg.wellFormed
  obtain ⟨start, hstart⟩ := Option.ne_none_iff_exists'.1 hready
  have hbits := toBits_eq_ok hrules hstart
  refine ⟨⟨_, hbits, hwf.encodedAs_bits hstart⟩, fun h hh heq head => ?_⟩
  obtain ⟨other, -, -, hsame⟩ := toBits_eq_ok_iff.1 (heq.trans hbits)
  refine (List.perm_ext_iff_of_nodup (hh.wellFormed.bodies_nodup head)
    (hwf.bodies_nodup head)).2 fun body => ?_
  -- The rules are read off the compiled form, so equal forms have the same rules.
  have hread : ⟨head, body⟩ ∈ (h.bits other).rules ↔ ⟨head, body⟩ ∈ h.rules :=
    hh.wellFormed.mem_rules_bits_iff
  rw [mem_bodies, mem_bodies, ← hread, ← hsame, hwf.mem_rules_bits_iff]

/-- Rules added in other orders give the same masks, so the grammars are not the same but have the
same rules. -/
theorem toBits_encodes_unordered :
    let g : Grammar :=
      { nonterminals := ['S', 'A']
        terminals := ['a', 'b']
        start := some 'S'
        rules := [⟨'S', .terminal 'a'⟩, ⟨'S', .pair 'A' 'S'⟩, ⟨'S', .terminal 'b'⟩,
          ⟨'A', .terminal 'a'⟩] }
    let h : Grammar :=
      { g with
        rules := [⟨'A', .terminal 'a'⟩, ⟨'S', .terminal 'b'⟩, ⟨'S', .terminal 'a'⟩,
          ⟨'S', .pair 'A' 'S'⟩] }
    (∃ c, g.toBits = .ok c ∧ g.EncodedAs c) ∧ ¬ h.Same g ∧
      (h.bodies 'S').Perm (g.bodies 'S') := by
  intro g h
  have hg : g.Reachable := .of_edits
    [.declareNonterminal (.text "S"), .declareNonterminal (.text "A"),
      .declareTerminal (.text "a"), .declareTerminal (.text "b"), .setStart (.text "S"),
      .addRule (.text "S") (.text "a"), .addRule (.text "S") (.text "AS"),
      .addRule (.text "S") (.text "b"), .addRule (.text "A") (.text "a")]
    (by decide +kernel)
  have hh : h.Reachable := .of_edits
    [.declareNonterminal (.text "S"), .declareNonterminal (.text "A"),
      .declareTerminal (.text "a"), .declareTerminal (.text "b"), .setStart (.text "S"),
      .addRule (.text "A") (.text "a"), .addRule (.text "S") (.text "b"),
      .addRule (.text "S") (.text "a"), .addRule (.text "S") (.text "AS")]
    (by decide +kernel)
  have hbits : h.toBits = g.toBits := by decide +kernel
  obtain ⟨hencoded, hsame⟩ := toBits_encodes hg (List.cons_ne_nil _ _) (Option.some_ne_none _)
  exact ⟨hencoded, by decide +kernel, hsame h hh hbits 'S'⟩

end Grammar

end CykChart
