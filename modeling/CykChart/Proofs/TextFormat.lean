import CykChart.Proofs.Filing
import CykChart.Proofs.Lines
import Mathlib.Data.Set.List

/-!
# The grammars that texts describe

The condition under which a text describes a grammar, and the grammar that it describes, in terms
of what its lines say. Neither mentions a grammar under construction. The builder checks heads and
bodies against the symbols declared so far, by the text or on their first mention; since every
symbol that has a case is declared by then, the checks amount to letter case.

## Main definitions

- `Document.Valid`: the condition on what the lines say.
- `Document.Describes`: the grammar that the lines describe.

## Main results

- `Document.build_eq_ok_iff_valid`: building succeeds for valid documents, with the grammar that
  they describe.
- `Grammar.ofText_eq_ok_iff_valid`: a text with rules is accepted exactly when it is valid.
-/

namespace CykChart

namespace Document

/-- Heads with their bodies one by one, in the order of the text. -/
def alternatives (document : Document) : List (List Char × List Char) :=
  document.rules.flatMap fun (head, bodies) => bodies.map (head, ·)

/-- Tokens are single characters of a class, and no token is there twice. -/
structure Declarable (isSymbol : Char → Bool) (tokens : List (List Char)) : Prop where
  single : ∀ token ∈ tokens, ∃ c, token = [c] ∧ isSymbol c = true
  nodup : tokens.Nodup

/-- What the lines of a text must fulfil for the text to describe a grammar. -/
structure Valid (document : Document) : Prop where
  /-- Declared nonterminals are upper-case characters, each declared once. -/
  nonterminals_declarable : Declarable isNonterminal document.nonterminals
  /-- Declared terminals are lower-case characters, each declared once. -/
  terminals_declarable : Declarable isTerminal document.terminals
  /-- The start symbol, if one is given, is declared or an upper-case character of some rule. -/
  start_known : document.start ≠ [] → ∃ c, document.start = [c] ∧
    ([c] ∈ document.nonterminals ∨ isNonterminal c = true ∧ c ∈ document.mentions)
  /-- Heads are single upper-case characters. -/
  heads_upper : ∀ head bodies, (head, bodies) ∈ document.rules →
    ∃ c, head = [c] ∧ isNonterminal c = true
  /-- Bodies are one lower-case character or two upper-case ones. -/
  bodies_normal : ∀ head bodies, (head, bodies) ∈ document.rules → ∀ body ∈ bodies,
    (∃ c, body = [c] ∧ isTerminal c = true) ∨
      ∃ left right, body = [left, right] ∧ isNonterminal left = true ∧ isNonterminal right = true
  /-- No head has the same body twice. -/
  alternatives_nodup : document.alternatives.Nodup

/-- The grammar that the lines of a text describe. -/
structure Describes (document : Document) (g : Grammar) : Prop where
  /-- The nonterminals: the declared ones, then the other upper-case characters of the rules by
  first appearance. -/
  nonterminals_eq : g.nonterminals =
    (document.nonterminals.flatten ++ document.mentions.filter isNonterminal).eraseDups
  /-- The terminals: the declared ones, then the other lower-case characters of the rules by first
  appearance. -/
  terminals_eq : g.terminals =
    (document.terminals.flatten ++ document.mentions.filter isTerminal).eraseDups
  /-- The start symbol: the one given, else `S` if the grammar has it, else the first head. -/
  start_eq : g.start =
    if document.start ≠ [] then document.start.head?
    else if 'S' ∈ g.nonterminals then some 'S'
    else document.rules.head?.bind (·.1.head?)
  /-- The rules, as the text spells them and in its order. -/
  rules_eq : g.rules.map Rule.spelled = document.alternatives

end Document

/-! ## Building -/

namespace Document

variable {document : Document}

/-- The symbols of a document, as a grammar without rules. -/
def vocabulary (document : Document) : Grammar where
  nonterminals :=
    (document.nonterminals.flatten ++ document.mentions.filter isNonterminal).eraseDups
  terminals := (document.terminals.flatten ++ document.mentions.filter isTerminal).eraseDups

/-- A declaration line is accepted when its tokens are distinct single symbols of the kind it
declares. -/
theorem declarable_iff {isSymbol : Char → Bool} {tokens : List (List Char)} :
    Declarable isSymbol tokens ↔
      ∃ cs : List Char, tokens = cs.map ([·]) ∧ (∀ c ∈ cs, isSymbol c = true) ∧ cs.Nodup := by
  have hinjective : Function.Injective fun c : Char => [c] := fun _ _ h => List.head_eq_of_cons_eq h
  constructor
  · rintro ⟨hsingle, hnodup⟩
    -- Each token is a character by itself, so the list of them comes from a list of characters.
    have hrange : tokens ∈ Set.range (List.map fun c : Char => [c]) := by
      rw [Set.range_list_map]
      intro token htoken
      obtain ⟨c, rfl, -⟩ := hsingle token htoken
      exact ⟨c, rfl⟩
    obtain ⟨cs, rfl⟩ := hrange
    refine ⟨cs, rfl, fun c hc => ?_, hnodup.of_map _⟩
    obtain ⟨other, heq, hother⟩ := hsingle [c] (List.mem_map_of_mem hc)
    exact hinjective heq ▸ hother
  · rintro ⟨cs, rfl, hall, hnodup⟩
    refine ⟨fun token htoken => ?_, hnodup.map hinjective⟩
    obtain ⟨c, hc, rfl⟩ := List.mem_map.1 htoken
    exact ⟨c, rfl, hall c hc⟩

/-- The declarations of a document succeed exactly when both lines are declarable, and then they are
the vocabulary. -/
theorem applyAll_declarations_eq_ok_iff {declared : Grammar} :
    Grammar.empty.applyAll document.declarations = .ok declared ↔
      Declarable isNonterminal document.nonterminals ∧ Declarable isTerminal document.terminals ∧
        declared = { nonterminals := document.nonterminals.flatten
                     terminals := document.terminals.flatten } := by
  constructor
  · intro h
    -- All nonterminals are declared before the first terminal.
    obtain ⟨middle, hfirst, hsecond⟩ := Grammar.applyAll_append_eq_ok_iff.1 h
    obtain ⟨upper, hupper, hupperCase, hupperNodup, -, rfl⟩ :=
      Grammar.declaringNonterminals.applyAll_eq_ok_iff.1 hfirst
    obtain ⟨lower, hlower, hlowerCase, hlowerNodup, -, rfl⟩ :=
      Grammar.declaringTerminals.applyAll_eq_ok_iff.1 hsecond
    refine ⟨declarable_iff.2 ⟨upper, hupper, hupperCase, hupperNodup⟩,
      declarable_iff.2 ⟨lower, hlower, hlowerCase, hlowerNodup⟩, ?_⟩
    rw [hupper, hlower]
    simp [Grammar.declaringNonterminals, Grammar.declaringTerminals, Grammar.empty,
      ← List.flatMap_def]
  · rintro ⟨hnonterminals, hterminals, rfl⟩
    obtain ⟨upper, hupper, hupperCase, hupperNodup⟩ := declarable_iff.1 hnonterminals
    obtain ⟨lower, hlower, hlowerCase, hlowerNodup⟩ := declarable_iff.1 hterminals
    refine Grammar.applyAll_append_eq_ok_iff.2 ⟨{ nonterminals := upper }, ?_, ?_⟩
    · refine Grammar.declaringNonterminals.applyAll_eq_ok_iff.2
        ⟨upper, hupper, hupperCase, hupperNodup, ?_, rfl⟩
      simp [Grammar.declaringNonterminals, Grammar.empty]
    · refine Grammar.declaringTerminals.applyAll_eq_ok_iff.2
        ⟨lower, hlower, hlowerCase, hlowerNodup, by simp [Grammar.declaringTerminals], ?_⟩
      rw [hupper, hlower]
      simp [Grammar.declaringTerminals, ← List.flatMap_def]

theorem wellFormed_declared (hnonterminals : Declarable isNonterminal document.nonterminals)
    (hterminals : Declarable isTerminal document.terminals) :
    Grammar.WellFormed { nonterminals := document.nonterminals.flatten
                         terminals := document.terminals.flatten } :=
  Grammar.wellFormed_empty.applyAll
    (applyAll_declarations_eq_ok_iff.2 ⟨hnonterminals, hterminals, rfl⟩)

/-- Declaring what the rules mention appends the symbols not declared before, in order of first
appearance. -/
theorem foldl_mention_declared (hnonterminals : Declarable isNonterminal document.nonterminals)
    (hterminals : Declarable isTerminal document.terminals) :
    document.mentions.foldl Grammar.mention
      { nonterminals := document.nonterminals.flatten
        terminals := document.terminals.flatten } = document.vocabulary := by
  rw [(wellFormed_declared hnonterminals hterminals).foldl_mention]
  rfl

theorem additions_eq (document : Document) :
    document.additions = document.alternatives.map Grammar.addingRules.edit := by
  simp [additions, alternatives, List.map_flatMap, Grammar.addingRules, Function.comp_def]

/-- The start symbol and the rules go in exactly when each is over the vocabulary and no rule stands
twice. -/
theorem applyAll_rules_eq_ok_iff {v g : Grammar} (hempty : v.rules = []) {symbol : List Char} :
    v.applyAll (.setStart (datum symbol) :: document.additions) = .ok g ↔
      ∃ start rules, symbol = [start] ∧ start ∈ v.nonterminals ∧
        document.alternatives = rules.map Rule.spelled ∧
        (∀ rule ∈ rules, rule.head ∈ v.nonterminals ∧ v.DeclaresBody rule.body) ∧
        rules.Nodup ∧ g = { v with start := some start, rules := rules } := by
  rw [Grammar.applyAll_cons_eq_ok_iff, additions_eq]
  -- A start symbol that is set is not seen by the rules.
  have hfits : ∀ start rule, Grammar.addingRules.fits { v with start := some start } rule ↔
      rule.head ∈ v.nonterminals ∧ v.DeclaresBody rule.body := by
    rintro start ⟨head, body⟩
    cases body <;> rfl
  constructor
  · rintro ⟨middle, hset, hadded⟩
    obtain ⟨start, hsymbol, hmem, rfl⟩ := Grammar.setStart_eq_ok_iff.1 hset
    obtain ⟨rules, hspelled, hall, hnodup, -, rfl⟩ :=
      Grammar.addingRules.applyAll_eq_ok_iff.1 hadded
    refine ⟨start, rules, Grammar.char?_datum_eq_some_iff.1 hsymbol, hmem, hspelled, ?_, hnodup, ?_⟩
    · exact fun rule hrule => (hfits start rule).1 (hall rule hrule)
    · simp [Grammar.addingRules, hempty]
  · rintro ⟨start, rules, rfl, hmem, hspelled, hall, hnodup, rfl⟩
    refine ⟨{ v with start := some start }, ?_, ?_⟩
    · exact Grammar.setStart_eq_ok_iff.2
        ⟨start, Grammar.char?_datum_eq_some_iff.2 rfl, hmem, rfl⟩
    · refine Grammar.addingRules.applyAll_eq_ok_iff.2 ⟨rules, hspelled, ?_, hnodup, ?_, ?_⟩
      · exact fun rule hrule => (hfits start rule).2 (hall rule hrule)
      · simp [Grammar.addingRules, hempty]
      · simp [Grammar.addingRules, hempty]

/-- Building succeeds when the declarations do, the start symbol is in the vocabulary, and the text
spells distinct rules over the vocabulary. -/
theorem build_eq_ok_iff_vocabulary {g : Grammar} :
    document.build = .ok g ↔
      Declarable isNonterminal document.nonterminals ∧ Declarable isTerminal document.terminals ∧
        ∃ start rules, document.startFor? document.vocabulary = some [start] ∧
          start ∈ document.vocabulary.nonterminals ∧
          document.alternatives = rules.map Rule.spelled ∧
          (∀ rule ∈ rules, rule.head ∈ document.vocabulary.nonterminals ∧
            document.vocabulary.DeclaresBody rule.body) ∧
          rules.Nodup ∧ g = { document.vocabulary with start := some start, rules := rules } := by
  rw [build_eq_ok_iff]
  -- What is declared, then what is mentioned, is the vocabulary, whichever way the proof goes.
  constructor
  · rintro ⟨declared, symbol, hdeclared, hstart, hbuilt⟩
    obtain ⟨hnonterminals, hterminals, rfl⟩ := applyAll_declarations_eq_ok_iff.1 hdeclared
    rw [foldl_mention_declared hnonterminals hterminals] at hstart hbuilt
    obtain ⟨start, rules, rfl, hrules⟩ := (applyAll_rules_eq_ok_iff rfl).1 hbuilt
    exact ⟨hnonterminals, hterminals, start, rules, hstart, hrules⟩
  · rintro ⟨hnonterminals, hterminals, start, rules, hstart, hrules⟩
    refine ⟨_, [start], applyAll_declarations_eq_ok_iff.2 ⟨hnonterminals, hterminals, rfl⟩, ?_⟩
    rw [foldl_mention_declared hnonterminals hterminals]
    exact ⟨hstart, (applyAll_rules_eq_ok_iff rfl).2 ⟨start, rules, rfl, hrules⟩⟩

/-! ## Letter case decides -/

/-- The nonterminals of a document are those it declares and those its rules mention. -/
theorem mem_vocabulary_nonterminals {c : Char} :
    c ∈ document.vocabulary.nonterminals ↔
      c ∈ document.nonterminals.flatten ∨ c ∈ document.mentions ∧ isNonterminal c = true := by
  simp [vocabulary, List.mem_eraseDups]

/-- The terminals of a document are those it declares and those its rules mention. -/
theorem mem_vocabulary_terminals {c : Char} :
    c ∈ document.vocabulary.terminals ↔
      c ∈ document.terminals.flatten ∨ c ∈ document.mentions ∧ isTerminal c = true := by
  simp [vocabulary, List.mem_eraseDups]

theorem Declarable.mem_flatten_iff {isSymbol : Char → Bool} {tokens : List (List Char)}
    (h : Declarable isSymbol tokens) {c : Char} : c ∈ tokens.flatten ↔ [c] ∈ tokens := by
  obtain ⟨cs, rfl, -, -⟩ := declarable_iff.1 h
  simp [← List.flatMap_def]

/-- All symbols of a class are in it, whether they are declared or mentioned. -/
theorem Declarable.of_mem_symbols {isSymbol : Char → Bool} {tokens : List (List Char)}
    (h : Declarable isSymbol tokens) {mentioned : List Char} {c : Char}
    (hc : c ∈ (tokens.flatten ++ mentioned.filter isSymbol).eraseDups) : isSymbol c = true := by
  rcases List.mem_append.1 (List.mem_eraseDups.1 hc) with hdeclared | hmentioned
  · obtain ⟨other, heq, hother⟩ := h.single [c] (h.mem_flatten_iff.1 hdeclared)
    exact List.head_eq_of_cons_eq heq ▸ hother
  · exact (List.mem_filter.1 hmentioned).2

theorem mem_alternatives {head body : List Char} :
    (head, body) ∈ document.alternatives ↔
      ∃ bodies, (head, bodies) ∈ document.rules ∧ body ∈ bodies := by
  simp only [alternatives, List.mem_flatMap, List.mem_map, Prod.exists, Prod.mk.injEq]
  constructor
  · rintro ⟨_, bodies, hrule, _, hbody, rfl, rfl⟩
    exact ⟨bodies, hrule, hbody⟩
  · rintro ⟨bodies, hrule, hbody⟩
    exact ⟨head, bodies, hrule, body, hbody, rfl, rfl⟩

/-- The characters of a rule are mentioned. -/
theorem mem_mentions {head body : List Char} (h : (head, body) ∈ document.alternatives) {c : Char}
    (hc : c ∈ head ++ body) : c ∈ document.mentions := by
  obtain ⟨bodies, hrule, hbody⟩ := mem_alternatives.1 h
  refine List.mem_flatMap.2 ⟨(head, bodies), hrule, List.mem_append.2 ?_⟩
  rcases List.mem_append.1 hc with hhead | hbodyChar
  · exact .inl hhead
  · exact .inr (List.mem_flatten.2 ⟨body, hbody, hbodyChar⟩)

/-- A rule of a valid document is over its vocabulary: every symbol that its head or a body takes
for a nonterminal or a terminal is mentioned and has the letter case for it. -/
theorem Valid.exists_rule (h : document.Valid) {pair : List Char × List Char}
    (hpair : pair ∈ document.alternatives) :
    ∃ rule : Rule, rule.spelled = pair ∧ rule.head ∈ document.vocabulary.nonterminals ∧
      document.vocabulary.DeclaresBody rule.body := by
  obtain ⟨head, body⟩ := pair
  obtain ⟨bodies, hrule, hbody⟩ := mem_alternatives.1 hpair
  obtain ⟨c, rfl, hupper⟩ := h.heads_upper head bodies hrule
  -- No symbol needs a declaration: each is mentioned by the rule itself.
  have hhead : c ∈ document.vocabulary.nonterminals :=
    mem_vocabulary_nonterminals.2 (.inr ⟨mem_mentions hpair (by simp), hupper⟩)
  rcases h.bodies_normal _ bodies hrule body hbody with
    ⟨t, rfl, hlower⟩ | ⟨left, right, rfl, hleft, hright⟩
  · refine ⟨⟨c, .terminal t⟩, rfl, hhead, ?_⟩
    exact mem_vocabulary_terminals.2 (.inr ⟨mem_mentions hpair (by simp), hlower⟩)
  · refine ⟨⟨c, .pair left right⟩, rfl, hhead, ?_, ?_⟩
    · exact mem_vocabulary_nonterminals.2 (.inr ⟨mem_mentions hpair (by simp), hleft⟩)
    · exact mem_vocabulary_nonterminals.2 (.inr ⟨mem_mentions hpair (by simp), hright⟩)

/-- The alternatives of a valid document spell rules over its vocabulary. -/
theorem Valid.exists_rules (h : document.Valid) :
    ∃ rules : List Rule, document.alternatives = rules.map Rule.spelled ∧
      ∀ rule ∈ rules, rule.head ∈ document.vocabulary.nonterminals ∧
        document.vocabulary.DeclaresBody rule.body := by
  have hrange : document.alternatives ∈ Set.range (List.map Rule.spelled) := by
    rw [Set.range_list_map]
    intro pair hpair
    obtain ⟨rule, hspelled, -⟩ := h.exists_rule hpair
    exact ⟨rule, hspelled⟩
  obtain ⟨rules, hrules⟩ := hrange
  -- The rule chosen for a spelling is the rule with that spelling, as there is only one.
  refine ⟨rules, hrules.symm, fun rule hrule => ?_⟩
  have hpair : rule.spelled ∈ document.alternatives := hrules ▸ List.mem_map_of_mem hrule
  obtain ⟨same, hspelled, hfits⟩ := h.exists_rule hpair
  exact Rule.spelled_injective hspelled ▸ hfits

theorem startFor?_eq (document : Document) (g : Grammar) :
    document.startFor? g =
      if document.start ≠ [] then some document.start
      else if 'S' ∈ g.nonterminals then some ['S']
      else document.rules.head?.map (·.1) := by
  unfold startFor?
  split
  next hunset => simp [hunset]
  next hset => rw [if_pos hset]

/-- A valid document with rules has a start symbol in its vocabulary. -/
theorem Valid.exists_start (h : document.Valid) (hrules : document.rules ≠ [])
    (hbodies : ∀ head bodies, (head, bodies) ∈ document.rules → bodies ≠ []) :
    ∃ start, document.startFor? document.vocabulary = some [start] ∧
      start ∈ document.vocabulary.nonterminals := by
  rw [startFor?_eq]
  split
  next hset =>
    obtain ⟨c, hstart, hknown⟩ := h.start_known hset
    refine ⟨c, by rw [hstart], mem_vocabulary_nonterminals.2 ?_⟩
    rcases hknown with hdeclared | ⟨hupper, hmention⟩
    · exact .inl (h.nonterminals_declarable.mem_flatten_iff.2 hdeclared)
    · exact .inr ⟨hmention, hupper⟩
  next =>
    split
    next hdefault => exact ⟨'S', rfl, hdefault⟩
    next =>
      -- Without a default the first head is taken, which is declared because it is mentioned.
      obtain ⟨⟨head, bodies⟩, rest, hfirst⟩ := List.exists_cons_of_ne_nil hrules
      have hrule : (head, bodies) ∈ document.rules := hfirst ▸ List.mem_cons_self
      obtain ⟨body, others, rfl⟩ := List.exists_cons_of_ne_nil (hbodies head bodies hrule)
      obtain ⟨c, rfl, hupper⟩ := h.heads_upper head _ hrule
      have hpair : ([c], body) ∈ document.alternatives :=
        mem_alternatives.2 ⟨_, hrule, List.mem_cons_self⟩
      refine ⟨c, by rw [hfirst]; rfl, ?_⟩
      exact mem_vocabulary_nonterminals.2 (.inr ⟨mem_mentions hpair (by simp), hupper⟩)

/-- What the builder makes of a document with rules is what its lines describe. -/
theorem valid_and_describes_of_build {g : Grammar}
    (hbodies : ∀ head bodies, (head, bodies) ∈ document.rules → bodies ≠ [])
    (hbuild : document.build = .ok g) : document.Valid ∧ document.Describes g := by
  obtain ⟨hnonterminals, hterminals, start, rules, hstart, hmem, hspelled, hfits, hnodup, rfl⟩ :=
    build_eq_ok_iff_vocabulary.1 hbuild
  -- Every alternative of the text is one of the rules that were added.
  have hrule : ∀ head bodies, (head, bodies) ∈ document.rules → ∀ body ∈ bodies,
      ∃ rule ∈ rules, rule.spelled = (head, body) := by
    intro head bodies hline body hbody
    have hpair : (head, body) ∈ document.alternatives := mem_alternatives.2 ⟨bodies, hline, hbody⟩
    rw [hspelled] at hpair
    exact List.mem_map.1 hpair
  refine ⟨⟨hnonterminals, hterminals, ?_, ?_, ?_, ?_⟩, ⟨rfl, rfl, ?_, ?_⟩⟩
  -- The start symbol that was given.
  · intro hset
    rw [startFor?_eq, if_pos hset, Option.some.injEq] at hstart
    refine ⟨start, hstart, ?_⟩
    rcases mem_vocabulary_nonterminals.1 hmem with hdeclared | ⟨hmention, hupper⟩
    · exact .inl (hnonterminals.mem_flatten_iff.1 hdeclared)
    · exact .inr ⟨hupper, hmention⟩
  -- Heads: each line has a body, and with it a rule.
  · intro head bodies hline
    obtain ⟨body, others, rfl⟩ := List.exists_cons_of_ne_nil (hbodies head bodies hline)
    obtain ⟨rule, hmemRule, hpair⟩ := hrule head _ hline body List.mem_cons_self
    refine ⟨rule.head, (congrArg Prod.fst hpair).symm, ?_⟩
    exact hnonterminals.of_mem_symbols (hfits rule hmemRule).1
  -- Bodies: what the vocabulary has as a nonterminal or a terminal has the letter case for it.
  · intro head bodies hline body hbody
    obtain ⟨⟨c, b⟩, hmemRule, hpair⟩ := hrule head bodies hline body hbody
    have hdeclared := (hfits _ hmemRule).2
    have hsymbols : b.symbols = body := congrArg Prod.snd hpair
    cases b with
    | terminal t => exact .inl ⟨t, hsymbols.symm, hterminals.of_mem_symbols hdeclared⟩
    | pair left right =>
      exact .inr ⟨left, right, hsymbols.symm,
        hnonterminals.of_mem_symbols hdeclared.1, hnonterminals.of_mem_symbols hdeclared.2⟩
  · rw [hspelled]
    exact hnodup.map Rule.spelled_injective
  -- The start symbol of the grammar, in the three cases of where it comes from.
  · rw [startFor?_eq] at hstart
    split at hstart
    next hset => rw [if_pos hset, Option.some.inj hstart]; rfl
    next hset =>
      rw [if_neg hset]
      split at hstart
      next hdefault => rw [if_pos hdefault, List.head_eq_of_cons_eq (Option.some.inj hstart)]
      next hdefault =>
        obtain ⟨rule, hfirst, hhead⟩ := Option.map_eq_some_iff.1 hstart
        rw [if_neg hdefault, hfirst, Option.bind_some, hhead]
        rfl
  · exact hspelled.symm

/-- The lines of a text describe one grammar only. -/
theorem Describes.unique {g h : Grammar} (hg : document.Describes g) (hh : document.Describes h) :
    g = h := by
  have hnonterminals : g.nonterminals = h.nonterminals :=
    hg.nonterminals_eq.trans hh.nonterminals_eq.symm
  have hterminals : g.terminals = h.terminals := hg.terminals_eq.trans hh.terminals_eq.symm
  have hstart : g.start = h.start := by
    rw [hg.start_eq, hh.start_eq, hnonterminals]
  -- Rules are told apart by how they are spelled.
  have hrules : g.rules = h.rules :=
    List.map_injective_iff.2 Rule.spelled_injective (hg.rules_eq.trans hh.rules_eq.symm)
  cases g
  cases h
  rw [Grammar.mk.injEq]
  exact ⟨hnonterminals, hterminals, hstart, hrules⟩

/-- A valid document with rules builds a grammar. -/
theorem Valid.exists_build (h : document.Valid) (hrules : document.rules ≠ [])
    (hbodies : ∀ head bodies, (head, bodies) ∈ document.rules → bodies ≠ []) :
    ∃ g, document.build = .ok g := by
  obtain ⟨start, hstart, hmem⟩ := h.exists_start hrules hbodies
  obtain ⟨rules, hspelled, hfits⟩ := h.exists_rules
  -- Alternatives that differ as texts differ as rules.
  have hnodup : rules.Nodup := by
    have hpairs := h.alternatives_nodup
    rw [hspelled] at hpairs
    exact hpairs.of_map _
  refine ⟨{ document.vocabulary with start := some start, rules := rules }, ?_⟩
  exact build_eq_ok_iff_vocabulary.2
    ⟨h.nonterminals_declarable, h.terminals_declarable, start, rules, hstart, hmem, hspelled,
      hfits, hnodup, rfl⟩

/-- A document with rules builds a grammar exactly when it is valid, and then the grammar that its
lines describe. -/
theorem build_eq_ok_iff_valid {g : Grammar} (hrules : document.rules ≠ [])
    (hbodies : ∀ head bodies, (head, bodies) ∈ document.rules → bodies ≠ []) :
    document.build = .ok g ↔ document.Valid ∧ document.Describes g := by
  constructor
  · exact valid_and_describes_of_build hbodies
  · rintro ⟨hvalid, hdescribes⟩
    -- Some grammar is built, and the lines describe no other.
    obtain ⟨built, hbuild⟩ := hvalid.exists_build hrules hbodies
    rw [hbuild, hdescribes.unique (valid_and_describes_of_build hbodies hbuild).2]

/-! ## Texts -/

/-- The document says what the lines of a text say. -/
def Reads (document : Document) (text : List Char) : Prop :=
  List.Forall₂ Line.Says (visibleLines text) document.lines

theorem mem_rules {head : List Char} {bodies : List (List Char)} :
    (head, bodies) ∈ document.rules ↔ Line.rules head bodies ∈ document.lines := by
  rw [rules, List.mem_filterMap]
  constructor
  · rintro ⟨said, hsaid, h⟩
    cases said <;> simp_all
  · intro h
    exact ⟨_, h, rfl⟩

theorem Reads.rules_ne_nil {text : List Char} (h : document.Reads text)
    (hrule : ∃ line ∈ visibleLines text, ∃ head bodies, Line.Says line (.rules head bodies)) :
    document.rules ≠ [] := by
  obtain ⟨line, hline, head, bodies, hsays⟩ := hrule
  obtain ⟨said, hmem, hsaid⟩ := exists_mem_of_forall₂ h hline
  rw [hsaid.unique hsays] at hmem
  exact List.ne_nil_of_mem (mem_rules.2 hmem)

/-- A rule line has a body, if only an empty one. -/
theorem Reads.bodies_ne_nil {text : List Char} (h : document.Reads text) (head : List Char)
    (bodies : List (List Char)) (hrule : (head, bodies) ∈ document.rules) : bodies ≠ [] := by
  obtain ⟨line, -, hsays⟩ := exists_mem_of_forall₂ h.flip (mem_rules.1 hrule)
  cases hsays with
  | rules => simp [List.splitOn_ne_nil]

end Document

namespace Grammar

/-- Reading a text is reading its document and building that. -/
theorem ofText_eq_ok_iff_build {text : List Char} {g : Grammar} :
    ofText text = .ok g ↔ ∃ document : Document, document.Reads text ∧ document.build = .ok g := by
  rw [ofText, bind_eq_ok_iff]
  exact exists_congr fun document => and_congr_left fun _ => Document.read_eq_ok_iff

/-- A text with a rule line describes a grammar exactly when all its lines are in the format and
what they say is valid, and the grammar that it is read as is the one that they describe. -/
theorem ofText_eq_ok_iff_valid {text : List Char}
    (hrule : ∃ line ∈ Document.visibleLines text, ∃ head bodies,
      Document.Line.Says line (.rules head bodies)) :
    ((∃ g, ofText text = .ok g) ↔ ∃ document : Document, document.Reads text ∧ document.Valid) ∧
      ∀ g, ofText text = .ok g ↔
        ∃ document : Document, document.Reads text ∧ document.Valid ∧ document.Describes g := by
  constructor
  · constructor
    · rintro ⟨g, h⟩
      obtain ⟨document, hreads, hbuild⟩ := ofText_eq_ok_iff_build.1 h
      exact ⟨document, hreads,
        (Document.valid_and_describes_of_build hreads.bodies_ne_nil hbuild).1⟩
    · rintro ⟨document, hreads, hvalid⟩
      -- A text with a rule never lacks a start symbol, so a valid document is built.
      obtain ⟨g, hbuild⟩ :=
        hvalid.exists_build (hreads.rules_ne_nil hrule) hreads.bodies_ne_nil
      exact ⟨g, ofText_eq_ok_iff_build.2 ⟨document, hreads, hbuild⟩⟩
  · intro g
    rw [ofText_eq_ok_iff_build]
    refine exists_congr fun document => and_congr_right fun hreads => ?_
    exact Document.build_eq_ok_iff_valid (hreads.rules_ne_nil hrule) hreads.bodies_ne_nil

/-- A text whose start symbol is not declared but occurs in a rule. -/
theorem ofText_eq_ok_iff_valid_mentioned :
    let text := "START: B\n<A> → BB | a # comment".toList
    (∃ line ∈ Document.visibleLines text, ∃ head bodies,
        Document.Line.Says line (.rules head bodies)) ∧
      ofText text = .ok
        ⟨['A', 'B'], ['a'], some 'B', [⟨'A', .pair 'B' 'B'⟩, ⟨'A', .terminal 'a'⟩]⟩ := by
  intro text
  have hvisible : Document.visibleLines text = ["START: B".toList, "<A> → BB | a".toList] := by
    decide +kernel
  have hstart : Document.Line.Says "START: B".toList (.start ['B']) :=
    Document.Line.read?_eq_some_iff.1 (by decide +kernel)
  have hrules : Document.Line.Says "<A> → BB | a".toList (.rules ['A'] [['B', 'B'], ['a']]) :=
    Document.Line.read?_eq_some_iff.1 (by decide +kernel)
  have hrule : ∃ line ∈ Document.visibleLines text, ∃ head bodies,
      Document.Line.Says line (.rules head bodies) :=
    ⟨_, by rw [hvisible]; exact List.mem_cons_of_mem _ List.mem_cons_self, _, _, hrules⟩
  -- `B` is the start symbol because the rule mentions it.
  refine ⟨hrule, ((ofText_eq_ok_iff_valid hrule).2 _).2 ?_⟩
  refine ⟨⟨[.start ['B'], .rules ['A'] [['B', 'B'], ['a']]]⟩, ?_, ?_, ?_⟩
  · rw [Document.Reads, hvisible]
    exact .cons hstart (.cons hrules .nil)
  · refine ⟨⟨by simp [Document.nonterminals], by decide⟩, ⟨by simp [Document.terminals], by decide⟩,
      fun _ => ⟨'B', rfl, .inr ⟨by decide +kernel, by decide⟩⟩, ?_, ?_, by decide +kernel⟩
    · intro head bodies hline
      obtain ⟨rfl, rfl⟩ : head = ['A'] ∧ bodies = [['B', 'B'], ['a']] := by
        simpa [Document.rules] using hline
      exact ⟨'A', rfl, by decide +kernel⟩
    · intro head bodies hline
      obtain ⟨rfl, rfl⟩ : head = ['A'] ∧ bodies = [['B', 'B'], ['a']] := by
        simpa [Document.rules] using hline
      rw [List.forall_mem_cons, List.forall_mem_singleton]
      exact ⟨.inr ⟨'B', 'B', rfl, by decide +kernel, by decide +kernel⟩,
        .inl ⟨'a', rfl, by decide +kernel⟩⟩
  · exact ⟨by decide +kernel, by decide +kernel, by decide +kernel, by decide +kernel⟩

end Grammar

end CykChart
