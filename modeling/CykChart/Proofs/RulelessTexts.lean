import CykChart.Proofs.TextFormat

/-!
# Texts without rules

A text may declare symbols and say nothing else. Without rules and without a line for the start
symbol only the default is left: `S`, if it is declared. So a text without rules is a grammar
exactly when its declarations can be made and `S` is among them, and when they can be made without
`S`, there is no start symbol.

## Main definitions

- `Document.Ruleless`: texts that state no rules and set no start symbol.

## Main results

- `Document.Ruleless.start_and_rules`: what such a text leaves unsaid.
- `Document.build_of_ruleless`, `Document.build_eq_noStart`: what its declarations build.
- `Grammar.ofText_of_ruleless`: the outcomes of reading such a text.
- `Grammar.ofText_not_refused`: such a text can be a grammar.
-/

namespace CykChart

namespace Document

variable {document : Document} {text : List Char} {g : Grammar}

/-! ## Lines that state nothing -/

/-- No line of a text states rules or sets the start symbol. -/
def Ruleless (text : List Char) : Prop :=
  ∀ line ∈ visibleLines text, (∀ symbol, ¬ Line.Says line (.start symbol)) ∧
    ∀ head bodies, ¬ Line.Says line (.rules head bodies)

/-- Whether a line declares symbols. -/
def Line.declares : Line → Bool
  | .nonterminals _ | .terminals _ => true
  | .start _ | .rules _ _ => false

/-- A text states no rules and no start symbol when all that its lines say is declarations. -/
theorem ruleless_iff :
    Ruleless text ↔
      ∀ line ∈ visibleLines text, ∀ said, Line.Says line said → said.declares = true := by
  refine forall₂_congr fun line _ => ⟨?_, fun h => ⟨fun symbol hsays => ?_, ?_⟩⟩
  · rintro ⟨hstart, hrules⟩ said hsays
    cases said with
    | start symbol => exact absurd hsays (hstart symbol)
    | nonterminals symbols => rfl
    | terminals symbols => rfl
    | rules head bodies => exact absurd hsays (hrules head bodies)
  · exact Bool.false_ne_true (h _ hsays)
  · exact fun head bodies hsays => Bool.false_ne_true (h _ hsays)

/-- Whether a text is without rules is decidable, as the reader for lines is. -/
instance (text : List Char) : Decidable (Ruleless text) :=
  decidable_of_iff
    (((visibleLines text).all fun line => (Line.read? line).all Line.declares) = true)
    (by simp [ruleless_iff, Option.all_eq_true, Line.read?_eq_some_iff])

/-- A text without rules leaves the start symbol and the rules unsaid. -/
theorem Ruleless.start_and_rules (h : Ruleless text) (hreads : document.Reads text) :
    document.start = [] ∧ document.rules = [] := by
  -- What the document says some line of the text says.
  have hdeclares : ∀ said ∈ document.lines, said.declares = true := by
    intro said hsaid
    obtain ⟨line, hline, hsays⟩ := exists_mem_of_forall₂ hreads.flip hsaid
    exact ruleless_iff.1 h line hline said hsays
  constructor
  · rw [start, List.filterMap_eq_nil_iff.2]
    · rfl
    · intro said hsaid
      have hkind := hdeclares said hsaid
      cases said <;> simp_all [Line.declares]
  · refine List.filterMap_eq_nil_iff.2 fun said hsaid => ?_
    have hkind := hdeclares said hsaid
    cases said <;> simp_all [Line.declares]

/-! ## What declarations build -/

section Declarations

variable (hrules : document.rules = [])

include hrules

/-- Without rules the declared symbols are all there are. -/
theorem vocabulary_of_rules_eq_nil (hnonterminals : Declarable isNonterminal document.nonterminals)
    (hterminals : Declarable isTerminal document.terminals) :
    document.vocabulary =
      { nonterminals := document.nonterminals.flatten
        terminals := document.terminals.flatten } := by
  have hmentions : document.mentions = [] := by rw [mentions, hrules, List.flatMap_nil]
  rw [← foldl_mention_declared hnonterminals hterminals, hmentions, List.foldl_nil]

/-- Without rules and start line the start symbol is the default one or none. -/
theorem startFor?_of_rules_eq_nil (hstart : document.start = []) (g : Grammar) :
    document.startFor? g = if 'S' ∈ g.nonterminals then some ['S'] else none := by
  rw [startFor?_eq, if_neg (not_not_intro hstart), hrules]
  rfl

/-- Declarations without rules build a grammar exactly when they can be made and `S` is declared. -/
theorem build_of_ruleless (hstart : document.start = []) :
    document.build = .ok g ↔
      Declarable isNonterminal document.nonterminals ∧ Declarable isTerminal document.terminals ∧
        ['S'] ∈ document.nonterminals ∧
        g = { nonterminals := document.nonterminals.flatten
              terminals := document.terminals.flatten
              start := some 'S' } := by
  have halternatives : document.alternatives = [] := by rw [alternatives, hrules, List.flatMap_nil]
  rw [build_eq_ok_iff_vocabulary]
  refine and_congr_right fun hnonterminals => and_congr_right fun hterminals => ?_
  rw [vocabulary_of_rules_eq_nil hrules hnonterminals hterminals, halternatives,
    startFor?_of_rules_eq_nil hrules hstart, ← hnonterminals.mem_flatten_iff]
  constructor
  · rintro ⟨start, rules, hdefault, -, hspelled, -, -, rfl⟩
    -- No rule is spelled, so there is none, and the start symbol can only be the default.
    obtain rfl := List.map_eq_nil_iff.1 hspelled.symm
    split at hdefault
    next hdeclared =>
      obtain rfl : 'S' = start := List.head_eq_of_cons_eq (Option.some.inj hdefault)
      exact ⟨hdeclared, rfl⟩
    next => exact absurd hdefault (by simp)
  · rintro ⟨hdeclared, rfl⟩
    exact ⟨'S', [], if_pos hdeclared, hdeclared, rfl, List.forall_mem_nil _, List.nodup_nil, rfl⟩

/-- Declarations that can be made, without rules and without `S`, leave no start symbol. -/
theorem build_eq_noStart (hstart : document.start = [])
    (hnonterminals : Declarable isNonterminal document.nonterminals)
    (hterminals : Declarable isTerminal document.terminals)
    (hundeclared : ['S'] ∉ document.nonterminals) : document.build = .error .noStart := by
  have hdeclared := applyAll_declarations_eq_ok_iff.2 ⟨hnonterminals, hterminals, rfl⟩
  -- No start line, no declared default and no rule whose head could serve.
  have hnone : document.startFor? (document.mentions.foldl Grammar.mention
      { nonterminals := document.nonterminals.flatten
        terminals := document.terminals.flatten }) = none := by
    rw [foldl_mention_declared hnonterminals hterminals, startFor?_of_rules_eq_nil hrules hstart,
      vocabulary_of_rules_eq_nil hrules hnonterminals hterminals]
    exact if_neg (mt hnonterminals.mem_flatten_iff.1 hundeclared)
  rw [build, hdeclared]
  simp only [bind, Except.bind, Except.mapError, hnone]

end Declarations

end Document

namespace Grammar

open Document (Declarable Ruleless)

/-- A text that states no rules and sets no start symbol is a grammar exactly when all its lines can
be read, its declarations can be made, and `S` is among the nonterminals; the grammar has `S` for
its start symbol. Without `S` such declarations are refused for want of a start symbol. -/
theorem ofText_of_ruleless {text : List Char} (hruleless : Ruleless text) :
    (∀ g, ofText text = .ok g ↔ ∃ document : Document, document.Reads text ∧
      Declarable isNonterminal document.nonterminals ∧ Declarable isTerminal document.terminals ∧
      ['S'] ∈ document.nonterminals ∧
      g = { nonterminals := document.nonterminals.flatten
            terminals := document.terminals.flatten
            start := some 'S' }) ∧
      ∀ document : Document, document.Reads text →
        Declarable isNonterminal document.nonterminals →
        Declarable isTerminal document.terminals → ['S'] ∉ document.nonterminals →
        ofText text = .error .noStart := by
  constructor
  · intro g
    rw [ofText_eq_ok_iff_build]
    refine exists_congr fun document => and_congr_right fun hreads => ?_
    obtain ⟨hstart, hrules⟩ := hruleless.start_and_rules hreads
    -- Without rules nothing is mentioned, so the vocabulary is what is declared.
    exact Document.build_of_ruleless hrules hstart
  · intro document hreads hnonterminals hterminals hundeclared
    obtain ⟨hstart, hrules⟩ := hruleless.start_and_rules hreads
    rw [ofText, Document.read_eq_ok_iff.2 hreads]
    exact Document.build_eq_noStart hrules hstart hnonterminals hterminals hundeclared

/-- Two texts that declare symbols only, one of them with the default start symbol. -/
theorem ofText_of_ruleless_declared :
    let text := "TERMINALS: a\nNON_TERMINALS: A S # S -> a".toList
    let other := "NONTERMINALS: A".toList
    Ruleless text ∧ ofText text = .ok ⟨['A', 'S'], ['a'], some 'S', []⟩ ∧
      Ruleless other ∧ ofText other = .error .noStart := by
  intro text other
  have htext : Ruleless text := by decide +kernel
  have hother : Ruleless other := by decide +kernel
  have hreads : Document.Reads ⟨[.terminals [['a']], .nonterminals [['A'], ['S']]]⟩ text :=
    Document.read_eq_ok_iff.1 (toOption_eq_some_iff.1 (by decide +kernel))
  have hothers : Document.Reads ⟨[.nonterminals [['A']]]⟩ other :=
    Document.read_eq_ok_iff.1 (toOption_eq_some_iff.1 (by decide +kernel))
  refine ⟨htext, ((ofText_of_ruleless htext).1 _).2 ⟨_, hreads, ?_, ?_, by decide, rfl⟩, hother,
    (ofText_of_ruleless hother).2 _ hothers ?_ ?_ (by decide)⟩
  · exact Document.declarable_iff.2
      ⟨['A', 'S'], rfl, List.all_eq_true.1 (by decide +kernel), by decide⟩
  · exact Document.declarable_iff.2 ⟨['a'], rfl, List.all_eq_true.1 (by decide +kernel), by decide⟩
  · exact Document.declarable_iff.2 ⟨['A'], rfl, List.all_eq_true.1 (by decide +kernel), by decide⟩
  · exact Document.declarable_iff.2 ⟨[], rfl, List.forall_mem_nil _, List.nodup_nil⟩

/-- The shortest text without rules that is not refused. -/
theorem ofText_not_refused :
    ¬ ∀ text : List Char, Ruleless text → ∃ error, ofText text = .error error := by
  intro hclaim
  have haccepted : ofText "NONTERMINALS: S".toList = .ok ⟨['S'], [], some 'S', []⟩ :=
    toOption_eq_some_iff.1 (by decide +kernel)
  obtain ⟨error, hrefused⟩ := hclaim "NONTERMINALS: S".toList (by decide +kernel)
  exact absurd (haccepted.symm.trans hrefused) (by simp)

end Grammar

end CykChart
