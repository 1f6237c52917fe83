import CykChart.Proofs.Cells
import CykChart.Proofs.RoundTrip

/-!
# Printed rules are read back

The printed rules of a grammar say nothing of its start symbol and of symbols that no rule uses.
They are a text all the same, and reading it gives a grammar with the same rules, head by head. Its
symbols are those of the rules, in the order in which the text first has them, and its start symbol
is the default one.

The two grammars may number their nonterminals differently, so their masks differ, but their cells
do not. Once the start symbol is set to that of the first grammar, both accept the same words and
print the same tables.

## Main definitions

- `Grammar.Occurs`: the symbols of the rules of a grammar.
- `Grammar.rulesDocument`: what the printed rules say.
- `Grammar.ReadBackAs`: what they are read back as.

## Main results

- `Grammar.WellFormed.reads_productions`: the printed rules say what the document says.
- `Grammar.filter_toList_productions`: the symbols in the text are those that the rules mention.
- `Grammar.ofText_productions_same_language`: the grammar that is read back.
-/

namespace CykChart

namespace Grammar

variable {g : Grammar} {head c : Char}

/-- A symbol occurs in the rules of a grammar as a head or in a body. -/
def Occurs (g : Grammar) (c : Char) : Prop :=
  ∃ rule ∈ g.rules, c = rule.head ∨ c ∈ rule.body.symbols

instance (g : Grammar) (c : Char) : Decidable (g.Occurs c) :=
  inferInstanceAs (Decidable (∃ rule ∈ g.rules, c = rule.head ∨ c ∈ rule.body.symbols))

/-- What occurs in rules is declared. -/
theorem WellFormed.declared_of_occurs (hg : g.WellFormed) (h : g.Occurs c) :
    c ∈ g.nonterminals ∨ c ∈ g.terminals := by
  obtain ⟨rule, hrule, rfl | hbody⟩ := h
  · exact .inl (hg.head_mem rule hrule)
  · exact hg.declared_of_mem_body (mem_bodies.2 hrule) hbody

/-! ## What the printed rules say -/

/-- What the printed rules say: there is a line for each nonterminal with rules. -/
def rulesDocument (g : Grammar) : Document where
  lines := (g.nonterminals.filterMap g.spelledRules?).map fun (head, bodies) => .rules head bodies

/-- The printed rules of a grammar are read as a document of them. -/
theorem WellFormed.reads_productions (hg : g.WellFormed) :
    g.rulesDocument.Reads g.productions.toList := by
  have hprinted : ∀ line ∈ g.nonterminals.map fun head => (g.productionsOf head).toList,
      ∀ c ∈ line, IsSymbol c ∨ c ∈ signs := by
    intro line hline c hc
    obtain ⟨head, hhead, rfl⟩ := List.mem_map.1 hline
    exact (hg.printed_productionsOf hhead c hc).imp_right mem_signs_of_mem_ruleSigns
  have hread := Document.forall₂_says_of_readsAs hg.forall₂_readsAs_productionsOf
  rw [Document.Reads, toList_productions, Document.visibleLines_of_printed hprinted]
  simpa [rulesDocument, List.map_filterMap, List.filterMap_map, Function.comp_def] using hread

section Document

variable (g)

/-- Printed rules declare no nonterminals. -/
theorem nonterminals_rulesDocument : g.rulesDocument.nonterminals = [] := by
  simp [Document.nonterminals, rulesDocument, List.flatMap_map]

/-- Nor do they declare terminals. -/
theorem terminals_rulesDocument : g.rulesDocument.terminals = [] := by
  simp [Document.terminals, rulesDocument, List.flatMap_map]

/-- Nor do they set the start symbol. -/
theorem start_rulesDocument : g.rulesDocument.start = [] := by
  simp [Document.start, rulesDocument, List.filterMap_map]

/-- Heads without rules leave no trace in them. -/
theorem rules_rulesDocument :
    g.rulesDocument.rules = g.nonterminals.filterMap g.spelledRules? := by
  simp [Document.rules, rulesDocument, List.filterMap_map]

/-- The rules stand head by head, as in the text of the whole state. -/
theorem alternatives_rulesDocument :
    g.rulesDocument.alternatives = g.rulesByHead.map Rule.spelled := by
  have hrules : g.rulesDocument.rules = (g.document 'S').rules := by
    rw [rules_rulesDocument, rules_document]
  rw [← alternatives_document g 'S', Document.alternatives, hrules, Document.alternatives]

end Document

/-- A head with rules is printed with its bodies, in their order. -/
theorem spelledRules?_eq_some_iff {spelled : List Char × List (List Char)} :
    g.spelledRules? head = some spelled ↔
      g.bodies head ≠ [] ∧ spelled = ([head], (g.bodies head).map Body.symbols) := by
  rw [spelledRules?]
  split
  next hnil => simp [hnil]
  next hne => simp [hne, eq_comm]

/-- The rules that are printed mention the symbols that occur in them. -/
theorem WellFormed.mem_mentions_iff (hg : g.WellFormed) :
    c ∈ g.rulesDocument.mentions ↔ g.Occurs c := by
  simp only [Document.mentions, rules_rulesDocument, List.mem_flatMap, List.mem_filterMap,
    spelledRules?_eq_some_iff]
  constructor
  · rintro ⟨spelled, ⟨head, -, hne, rfl⟩, hc⟩
    rcases List.mem_append.1 hc with hsingle | hbodies
    · -- A head is printed because it has a body.
      obtain ⟨body, rest, hcons⟩ := List.exists_cons_of_ne_nil hne
      have hrule : ⟨head, body⟩ ∈ g.rules := mem_bodies.1 (hcons ▸ List.mem_cons_self)
      exact ⟨_, hrule, .inl (List.mem_singleton.1 hsingle)⟩
    · obtain ⟨symbols, hsymbols, hin⟩ := List.mem_flatten.1 hbodies
      obtain ⟨body, hbody, rfl⟩ := List.mem_map.1 hsymbols
      exact ⟨_, mem_bodies.1 hbody, .inr hin⟩
  · rintro ⟨rule, hrule, hc⟩
    -- The rule is printed in the row of its head.
    have hbody : rule.body ∈ g.bodies rule.head := mem_bodies.2 hrule
    refine ⟨_, ⟨rule.head, hg.head_mem rule hrule, List.ne_nil_of_mem hbody, rfl⟩, ?_⟩
    refine List.mem_append.2 (hc.imp List.mem_singleton.2 fun hin => ?_)
    exact List.mem_flatten.2 ⟨_, List.mem_map_of_mem hbody, hin⟩

/-- What the printed rules say is valid: each head is declared and each body is one, so their
letters have the case that the format asks for. -/
theorem WellFormed.valid_rulesDocument (hg : g.WellFormed) : g.rulesDocument.Valid where
  nonterminals_declarable := by
    rw [nonterminals_rulesDocument]
    exact ⟨List.forall_mem_nil _, List.nodup_nil⟩
  terminals_declarable := by
    rw [terminals_rulesDocument]
    exact ⟨List.forall_mem_nil _, List.nodup_nil⟩
  -- The printed rules set no start symbol, so nothing has to be known.
  start_known := fun hset => absurd (start_rulesDocument g) hset
  heads_upper := by
    intro spelled bodies hline
    rw [rules_rulesDocument, List.mem_filterMap] at hline
    obtain ⟨head, hhead, hspelled⟩ := hline
    obtain ⟨-, hpair⟩ := spelledRules?_eq_some_iff.1 hspelled
    exact ⟨head, congrArg Prod.fst hpair, hg.upper head hhead⟩
  bodies_normal := by
    intro spelled bodies hline body hbody
    rw [rules_rulesDocument, List.mem_filterMap] at hline
    obtain ⟨head, -, hspelled⟩ := hline
    obtain ⟨-, hpair⟩ := spelledRules?_eq_some_iff.1 hspelled
    obtain ⟨rfl, rfl⟩ := Prod.mk.inj hpair
    obtain ⟨b, hb, rfl⟩ := List.mem_map.1 hbody
    have hdeclared : g.DeclaresBody b := hg.body_mem _ (mem_bodies.1 hb)
    cases b with
    | terminal symbol => exact .inl ⟨symbol, rfl, hg.lower symbol hdeclared⟩
    | pair left right =>
      exact .inr ⟨left, right, rfl, hg.upper left hdeclared.1, hg.upper right hdeclared.2⟩
  alternatives_nodup := by
    rw [alternatives_rulesDocument]
    exact hg.nodup_rulesByHead.map Rule.spelled_injective

/-! ## The symbols of the text -/

/-- Without the signs a printed line is its head and its bodies. -/
theorem filter_rulesLine {p : Char → Bool} (hsigns : ∀ c ∈ ruleSigns, p c = false) (head : Char)
    (bodies : List Body) :
    (Document.rulesLine head bodies).filter p =
      ([head] ++ (bodies.map Body.symbols).flatten).filter p := by
  have harrow : [':', ':', '='].filter p = [] := by
    refine List.filter_eq_nil_iff.2 fun c hc => ?_
    have hsign : [':', ':', '='] ⊆ ruleSigns := by simp [ruleSigns]
    simp [hsigns c (hsign hc)]
  have hbar : ['|'].filter p = [] := by simp [hsigns '|' (by decide)]
  rw [Document.rulesLine, List.filter_append, List.filter_append, harrow,
    filter_intercalate_eq_flatten hbar, List.append_nil, ← List.filter_append]

/-- Without the signs the text is what the rules mention, in the same order. -/
theorem filter_toList_productions (g : Grammar) {p : Char → Bool} (hnewline : p '\n' = false)
    (hsigns : ∀ c ∈ ruleSigns, p c = false) :
    g.productions.toList.filter p = g.rulesDocument.mentions.filter p := by
  rw [toList_productions, Document.mentions, rules_rulesDocument]
  -- Line by line; the line of a head without rules has no symbol.
  induction g.nonterminals with
  | nil => rfl
  | cons head rest ih =>
    have hend : ['\n'].filter p = [] := by simp [hnewline]
    rw [List.map_cons, List.flatMap_cons, List.filter_append, List.filter_append, ih, hend,
      List.append_nil, toList_productionsOf, List.filterMap_cons, spelledRules?]
    by_cases hnil : g.bodies head = []
    · simp [hnil]
    · rw [if_neg hnil, if_neg hnil, List.flatMap_cons, List.filter_append, filter_rulesLine hsigns]

/-- The first head that is printed is the first declared one that has rules. -/
theorem head?_rules_rulesDocument (g : Grammar) :
    (g.rulesDocument.rules.head?.bind fun rule => rule.1.head?) =
      g.nonterminals.find? fun head => g.bodies head ≠ [] := by
  rw [rules_rulesDocument]
  induction g.nonterminals with
  | nil => rfl
  | cons head rest ih =>
    rw [List.filterMap_cons, spelledRules?, List.find?_cons]
    by_cases hnil : g.bodies head = []
    · simpa [hnil] using ih
    · simp [hnil]

/-! ## The grammar that is read back -/

/-- The printed rules of a grammar with rules are those of a grammar. -/
theorem WellFormed.exists_ofText_productions (hg : g.WellFormed) (hrules : g.rules ≠ []) :
    ∃ h, ofText g.productions.toList = .ok h ∧ g.rulesDocument.Describes h := by
  have hreads := hg.reads_productions
  -- Each rule is printed, so a grammar with rules prints one line at least.
  have hne : g.rulesDocument.rules ≠ [] := by
    intro hnil
    obtain ⟨rule, rest, hcons⟩ := List.exists_cons_of_ne_nil hrules
    have hrule : rule ∈ g.rulesByHead := hg.mem_rulesByHead.2 (hcons ▸ List.mem_cons_self)
    have hspelled := List.mem_map_of_mem (f := Rule.spelled) hrule
    rw [← alternatives_rulesDocument, Document.alternatives, hnil] at hspelled
    exact absurd hspelled List.not_mem_nil
  obtain ⟨h, hbuild⟩ := hg.valid_rulesDocument.exists_build hne hreads.bodies_ne_nil
  exact ⟨h, ofText_eq_ok_iff_build.2 ⟨_, hreads, hbuild⟩,
    (Document.valid_and_describes_of_build hreads.bodies_ne_nil hbuild).2⟩

/-- What the printed rules of a grammar are read back as: the rules, and the symbols that occur in
them. -/
structure ReadBackAs (g h : Grammar) : Prop where
  /-- Every head has the same bodies in the same order. -/
  bodies_eq : ∀ head, h.bodies head = g.bodies head
  /-- The nonterminals stand in the order in which the text first has them. -/
  nonterminals_eq : h.nonterminals = (g.productions.toList.filter isNonterminal).eraseDups
  /-- So do the terminals. -/
  terminals_eq : h.terminals = (g.productions.toList.filter isTerminal).eraseDups
  /-- The nonterminals are those that occur in rules. -/
  mem_nonterminals_iff : ∀ c, c ∈ h.nonterminals ↔ c ∈ g.nonterminals ∧ g.Occurs c
  /-- So are the terminals. -/
  mem_terminals_iff : ∀ c, c ∈ h.terminals ↔ c ∈ g.terminals ∧ g.Occurs c
  /-- The start symbol is the default one. -/
  start_eq : h.start =
    if g.Occurs 'S' then some 'S' else g.nonterminals.find? fun head => g.bodies head ≠ []

section Describes

variable {h : Grammar}

/-- The rules that are read back stand head by head. -/
theorem rules_eq_of_describes (hdescribes : g.rulesDocument.Describes h) :
    h.rules = g.rulesByHead := by
  have hspelled := hdescribes.rules_eq
  rw [alternatives_rulesDocument] at hspelled
  exact List.map_injective_iff.2 Rule.spelled_injective hspelled

/-- The nonterminals read back stand in the order in which the text has them. -/
theorem nonterminals_eq_of_describes (hdescribes : g.rulesDocument.Describes h) :
    h.nonterminals = (g.productions.toList.filter isNonterminal).eraseDups := by
  have hsigns : ruleSigns.all (fun c => !isNonterminal c) = true := by decide +kernel
  rw [hdescribes.nonterminals_eq, nonterminals_rulesDocument,
    filter_toList_productions g (by decide +kernel) (by simpa using hsigns)]
  rfl

/-- So do the terminals. -/
theorem terminals_eq_of_describes (hdescribes : g.rulesDocument.Describes h) :
    h.terminals = (g.productions.toList.filter isTerminal).eraseDups := by
  have hsigns : ruleSigns.all (fun c => !isTerminal c) = true := by decide +kernel
  rw [hdescribes.terminals_eq, terminals_rulesDocument,
    filter_toList_productions g (by decide +kernel) (by simpa using hsigns)]
  rfl

/-- The nonterminals read back are those in rules. -/
theorem WellFormed.mem_nonterminals_of_describes (hg : g.WellFormed)
    (hdescribes : g.rulesDocument.Describes h) :
    c ∈ h.nonterminals ↔ c ∈ g.nonterminals ∧ g.Occurs c := by
  rw [hdescribes.nonterminals_eq, nonterminals_rulesDocument, List.mem_eraseDups,
    List.flatten_nil, List.nil_append, List.mem_filter, hg.mem_mentions_iff, and_comm]
  refine and_congr_left fun hoccurs => ⟨fun hupper => ?_, hg.upper c⟩
  -- A terminal is no upper-case character.
  refine (hg.declared_of_occurs hoccurs).resolve_right fun hterminal => ?_
  exact Bool.false_ne_true ((isTerminal_eq_false hupper).symm.trans (hg.lower c hterminal))

/-- So are the terminals. -/
theorem WellFormed.mem_terminals_of_describes (hg : g.WellFormed)
    (hdescribes : g.rulesDocument.Describes h) :
    c ∈ h.terminals ↔ c ∈ g.terminals ∧ g.Occurs c := by
  rw [hdescribes.terminals_eq, terminals_rulesDocument, List.mem_eraseDups,
    List.flatten_nil, List.nil_append, List.mem_filter, hg.mem_mentions_iff, and_comm]
  refine and_congr_left fun hoccurs => ⟨fun hlower => ?_, hg.lower c⟩
  refine (hg.declared_of_occurs hoccurs).resolve_left fun hnonterminal => ?_
  exact Bool.false_ne_true
    ((isTerminal_eq_false (hg.upper c hnonterminal)).symm.trans hlower)

/-- The start symbol is the default one. -/
theorem WellFormed.start_eq_of_describes (hg : g.WellFormed)
    (hdescribes : g.rulesDocument.Describes h) :
    h.start =
      if g.Occurs 'S' then some 'S' else g.nonterminals.find? fun head => g.bodies head ≠ [] := by
  -- The default is taken when it is declared, and only symbols of rules are declared here.
  have hdefault : 'S' ∈ h.nonterminals ↔ g.Occurs 'S' := by
    rw [hg.mem_nonterminals_of_describes hdescribes]
    refine and_iff_right_of_imp fun hoccurs => (hg.declared_of_occurs hoccurs).resolve_right ?_
    have hupper : isTerminal 'S' = false := by decide +kernel
    exact fun hterminal => Bool.false_ne_true (hupper.symm.trans (hg.lower _ hterminal))
  have hunset : ¬ g.rulesDocument.start ≠ [] := not_not.2 (start_rulesDocument g)
  rw [hdescribes.start_eq, if_neg hunset, head?_rules_rulesDocument]
  simp only [hdefault]

/-- A grammar that the printed rules describe has what they can tell of the grammar they were
printed from. -/
theorem WellFormed.readBackAs (hg : g.WellFormed) (hdescribes : g.rulesDocument.Describes h) :
    g.ReadBackAs h where
  bodies_eq head := by
    rw [bodies, bodies, rules_eq_of_describes hdescribes, hg.filter_rulesByHead]
  nonterminals_eq := nonterminals_eq_of_describes hdescribes
  terminals_eq := terminals_eq_of_describes hdescribes
  mem_nonterminals_iff _ := hg.mem_nonterminals_of_describes hdescribes
  mem_terminals_iff _ := hg.mem_terminals_of_describes hdescribes
  start_eq := hg.start_eq_of_describes hdescribes

/-- What is read back has the same rules. -/
theorem ReadBackAs.mem_rules_iff (hback : g.ReadBackAs h) (rule : Rule) :
    rule ∈ h.rules ↔ rule ∈ g.rules := by
  obtain ⟨head, body⟩ := rule
  rw [← mem_bodies, ← mem_bodies, hback.bodies_eq]

end Describes

/-- The printed rules of a reachable grammar that has rules are read back as a grammar with the same
bodies for every head. Its symbols are those that occur in the rules, in the order in which the text
first has them, and its start symbol is `S` if that occurs and else the first declared nonterminal
with rules. When the start symbol of the grammar occurs too it can be set again, and then every word
over the symbols that were read back gets the same verdict and the same table from both. -/
theorem ofText_productions_same_language (hg : g.Reachable) (hrules : g.rules ≠ []) :
    ∃ h, ofText g.productions.toList = .ok h ∧ g.ReadBackAs h ∧
      ∀ start, g.start = some start → g.Occurs start →
        ∃ restarted, h.setStart (.text start.toString) = .ok restarted ∧
          ∀ word, (∀ c ∈ word, c ∈ h.terminals) →
            ∃ verdict text, restarted.accepts word = .ok verdict ∧ g.accepts word = .ok verdict ∧
              restarted.table word = .ok text ∧ g.table word = .ok text := by
  have hwf := hg.wellFormed
  obtain ⟨h, htext, hdescribes⟩ := hwf.exists_ofText_productions hrules
  have hback := hwf.readBackAs hdescribes
  refine ⟨h, htext, hback, fun start hstart hoccurs => ?_⟩
  have hdeclared : start ∈ h.nonterminals :=
    (hback.mem_nonterminals_iff start).2 ⟨hwf.start_mem start hstart, hoccurs⟩
  have hset : h.setStart (.text start.toString) = .ok { h with start := some start } :=
    setStart_eq_ok_iff.2 ⟨start, by simp [Datum.char?, Datum.chars?], hdeclared, rfl⟩
  refine ⟨_, hset, fun word hword => ?_⟩
  -- The rules are the same, and the word is over the terminals of both grammars.
  have hrestarted : WellFormed { h with start := some start } :=
    (apply_eq_ok_iff.1 (show h.apply (.setStart _) = _ from hset)).wellFormed
      (wellFormed_ofText htext)
  have hmem : ∀ rule, rule ∈ h.rules ↔ rule ∈ g.rules := hback.mem_rules_iff
  have hsame : h.rules ≠ [] := by
    obtain ⟨rule, rest, hcons⟩ := List.exists_cons_of_ne_nil hrules
    exact List.ne_nil_of_mem ((hmem rule).2 (hcons ▸ List.mem_cons_self))
  have hterminals : ∀ c ∈ word, c ∈ g.terminals := fun c hc =>
    ((hback.mem_terminals_iff c).1 (hword c hc)).1
  refine ⟨_, _, accepts_eq_ok hsame rfl hword, ?_, table_eq_ok hsame rfl hword, ?_⟩
  · rw [accepts_eq_ok hrules hstart hterminals]
    exact congrArg Except.ok
      (hrestarted.accepts_chart_eq hwf hmem rfl hstart hword hterminals).symm
  · rw [table_eq_ok hrules hstart hterminals]
    exact congrArg Except.ok (hrestarted.print_chart_eq hwf start start hmem hword hterminals).symm

/-- A start symbol other than the default one, and symbols that no rule uses: the text has neither,
but with the start symbol set again the verdict and the table of `ab` come out the same. -/
theorem ofText_productions_same_language_unused :
    let g : Grammar :=
      { nonterminals := ['U', 'T', 'A', 'S', 'B']
        terminals := ['c', 'b', 'a']
        start := some 'T'
        rules := [⟨'S', .pair 'T' 'B'⟩, ⟨'T', .pair 'A' 'B'⟩, ⟨'B', .terminal 'b'⟩,
          ⟨'A', .terminal 'a'⟩] }
    ∃ h, ofText g.productions.toList = .ok h ∧ h.nonterminals = ['T', 'A', 'B', 'S'] ∧
      h.terminals = ['a', 'b'] ∧ h.start = some 'S' ∧
      ∃ restarted text, h.setStart (.text "T") = .ok restarted ∧
        restarted.accepts ['a', 'b'] = .ok true ∧
        restarted.table ['a', 'b'] = .ok text ∧ g.table ['a', 'b'] = .ok text := by
  intro g
  have hg : g.Reachable := .of_edits
    [.declareNonterminal (.text "U"), .declareNonterminal (.text "T"),
      .declareNonterminal (.text "A"), .declareNonterminal (.text "S"),
      .declareNonterminal (.text "B"), .declareTerminal (.text "c"), .declareTerminal (.text "b"),
      .declareTerminal (.text "a"), .setStart (.text "T"), .addRule (.text "S") (.text "TB"),
      .addRule (.text "T") (.text "AB"), .addRule (.text "B") (.text "b"),
      .addRule (.text "A") (.text "a")]
    (by decide +kernel)
  have hrules : g.rules ≠ [] := List.cons_ne_nil _ _
  obtain ⟨h, htext, hback, hlanguage⟩ := ofText_productions_same_language hg hrules
  obtain ⟨restarted, hset, hwords⟩ := hlanguage 'T' rfl (by decide +kernel)
  have hnonterminals : h.nonterminals = ['T', 'A', 'B', 'S'] :=
    hback.nonterminals_eq.trans (by decide +kernel)
  have hterminals : h.terminals = ['a', 'b'] := hback.terminals_eq.trans (by decide +kernel)
  obtain ⟨verdict, text, hverdict, hsame, htable, htable'⟩ :=
    hwords ['a', 'b'] (by simp [hterminals])
  have haccepts : g.accepts ['a', 'b'] = .ok true := by decide +kernel
  have hdefault : h.start = some 'S' := hback.start_eq.trans (by decide +kernel)
  refine ⟨h, htext, hnonterminals, hterminals, hdefault, restarted, text, hset, ?_, htable, htable'⟩
  rw [hverdict, ← hsame, haccepts]

end Grammar

end CykChart
