import CykChart.Grammar.Printer
import CykChart.Proofs.PrintedLines

/-!
# Printed grammars are read back

The state of a grammar with a start symbol can be written down as a text: a line for each kind of
symbol, one for the start symbol, and the printed rules. Reading the text gives the same grammar.

The lines of the text are those that were printed, and the line of a head without rules is empty and
passed over. The document that they make up mentions no symbol that it does not declare, so the
declared symbols are all there are. Its rules stand head by head, in the order in which the heads
are declared; that order need not be the one in which they were added, but no head can tell.

## Main definitions

- `Grammar.stateText`: the text of a grammar.
- `Grammar.stateLines`, `Grammar.document`: its lines and what they say.

## Main results

- `Grammar.WellFormed.reads_stateText`: the lines of the text say what the document says.
- `Grammar.WellFormed.build_document`: the grammar that the document builds.
- `Grammar.ofText_stateText_same`: a printed grammar is read back.
-/

namespace CykChart

namespace Grammar

variable {g : Grammar} {start head : Char}

/-! ## The text of a grammar -/

/-- A line with a keyword and symbols behind it, separated by blanks. -/
def keywordText (keyword : String) (symbols : List Char) : String :=
  keyword ++ " " ++ String.intercalate " " (symbols.map Char.toString) ++ "\n"

/-- The state of a grammar as a text: its symbols in order of declaration, the start symbol, and
the printed rules. -/
def stateText (g : Grammar) (start : Char) : String :=
  keywordText "NONTERMINALS:" g.nonterminals ++ keywordText "TERMINALS:" g.terminals
    ++ keywordText "START:" [start] ++ g.productions

/-- The lines of the text. -/
def stateLines (g : Grammar) (start : Char) : List (List Char) :=
  [Document.keywordLine "NONTERMINALS:" g.nonterminals,
    Document.keywordLine "TERMINALS:" g.terminals, Document.keywordLine "START:" [start]]
    ++ g.nonterminals.map fun head => (g.productionsOf head).toList

/-- The rules of a head as a text spells them; none for a head without rules. -/
def spelledRules? (g : Grammar) (head : Char) : Option (List Char × List (List Char)) :=
  if g.bodies head = [] then none else some ([head], (g.bodies head).map Body.symbols)

/-- What the lines of the text say. -/
def document (g : Grammar) (start : Char) : Document where
  lines :=
    [.nonterminals (g.nonterminals.map ([·])), .terminals (g.terminals.map ([·])), .start [start]]
      ++ (g.nonterminals.filterMap g.spelledRules?).map fun (head, bodies) => .rules head bodies

/-- The rules of a head are printed as one line of rules, and a head without rules as an empty one.
-/
theorem toList_productionsOf (g : Grammar) (head : Char) :
    (g.productionsOf head).toList =
      if g.bodies head = [] then [] else Document.rulesLine head (g.bodies head) := by
  rw [productionsOf]
  split
  next hnil => simp [hnil]
  next hne =>
    rw [if_neg hne]
    simp [Document.rulesLine, String.toList_intercalate, Body.print, Function.comp_def]

/-- Symbols are printed as the characters that they are. -/
theorem map_toList_toString (symbols : List Char) :
    (symbols.map Char.toString).map String.toList = symbols.map ([·]) := by
  rw [List.map_map]
  exact List.map_congr_left fun c _ => String.toList_singleton c

/-- Symbols behind a keyword are printed as one line. -/
theorem toList_keywordText (keyword : String) (symbols : List Char) :
    (keywordText keyword symbols).toList = Document.keywordLine keyword symbols ++ ['\n'] := by
  rw [keywordText, Document.keywordLine, String.toList_append, String.toList_append,
    String.toList_append, String.toList_intercalate, map_toList_toString,
    List.append_assoc keyword.toList]
  rfl

/-- The rules of a grammar are printed as one line for each nonterminal. -/
theorem toList_productions (g : Grammar) :
    g.productions.toList =
      (g.nonterminals.map fun head => (g.productionsOf head).toList).flatMap (· ++ ['\n']) := by
  rw [productions, String.toList_join, List.flatMap_map, List.flatMap_map]
  simp only [String.toList_append]
  rfl

/-- The text is made of its lines. -/
theorem toList_stateText (g : Grammar) (start : Char) :
    (g.stateText start).toList = (g.stateLines start).flatMap (· ++ ['\n']) := by
  rw [stateText, String.toList_append, String.toList_append, String.toList_append,
    toList_keywordText, toList_keywordText, toList_keywordText, toList_productions, stateLines,
    List.flatMap_append, List.flatMap_cons, List.flatMap_cons, List.flatMap_singleton]
  simp only [List.append_assoc]

namespace WellFormed

/-- Declared nonterminals are symbols. -/
theorem isSymbol_of_nonterminal (hg : g.WellFormed) {c : Char} (hc : c ∈ g.nonterminals) :
    IsSymbol c :=
  .inl (hg.upper c hc)

/-- Declared terminals are symbols. -/
theorem isSymbol_of_terminal (hg : g.WellFormed) {c : Char} (hc : c ∈ g.terminals) : IsSymbol c :=
  .inr (hg.lower c hc)

/-- The symbols of a body are declared. -/
theorem declared_of_mem_body (hg : g.WellFormed) {body : Body} (hbody : body ∈ g.bodies head)
    {c : Char} (hc : c ∈ body.symbols) : c ∈ g.nonterminals ∨ c ∈ g.terminals := by
  have hdeclares : g.DeclaresBody body := hg.body_mem _ (mem_bodies.1 hbody)
  cases body with
  | terminal symbol => exact .inr (List.mem_singleton.1 hc ▸ hdeclares)
  | pair left right =>
    rcases List.mem_pair.1 hc with rfl | rfl
    · exact .inl hdeclares.1
    · exact .inl hdeclares.2

/-- Bodies are made of symbols. -/
theorem isSymbol_of_mem_body (hg : g.WellFormed) {body : Body} (hbody : body ∈ g.bodies head)
    {c : Char} (hc : c ∈ body.symbols) : IsSymbol c :=
  (hg.declared_of_mem_body hbody hc).elim hg.isSymbol_of_nonterminal hg.isSymbol_of_terminal

/-- The printed rules of a head are made of symbols and the signs in rules. -/
theorem printed_productionsOf (hg : g.WellFormed) (hhead : head ∈ g.nonterminals) :
    ∀ c ∈ (g.productionsOf head).toList, IsSymbol c ∨ c ∈ ruleSigns := by
  intro c hc
  rw [toList_productionsOf] at hc
  split at hc
  next => exact absurd hc List.not_mem_nil
  next =>
    exact Document.printed_rulesLine (hg.isSymbol_of_nonterminal hhead)
      (fun _ hbody _ => hg.isSymbol_of_mem_body hbody) c hc

/-- The printed state is made of symbols and signs. -/
theorem printed_stateLines (hg : g.WellFormed) (hstart : g.start = some start) :
    ∀ line ∈ g.stateLines start, ∀ c ∈ line, IsSymbol c ∨ c ∈ signs := by
  have hdeclared := hg.isSymbol_of_nonterminal (hg.start_mem start hstart)
  rw [stateLines, List.forall_mem_append]
  constructor
  · simp only [List.forall_mem_cons]
    exact ⟨Document.printed_keywordLine (by decide) fun _ => hg.isSymbol_of_nonterminal,
      Document.printed_keywordLine (by decide) fun _ => hg.isSymbol_of_terminal,
      Document.printed_keywordLine (by decide) (by simpa using hdeclared), List.forall_mem_nil _⟩
  · intro line hline c hc
    obtain ⟨head, hhead, rfl⟩ := List.mem_map.1 hline
    exact (hg.printed_productionsOf hhead c hc).imp_right mem_signs_of_mem_ruleSigns

/-- The text is cut into the lines that were printed. -/
theorem visibleLines_stateText (hg : g.WellFormed) (hstart : g.start = some start) :
    Document.visibleLines (g.stateText start).toList =
      (g.stateLines start).filterMap Document.visible? := by
  rw [toList_stateText]
  exact Document.visibleLines_of_printed (hg.printed_stateLines hstart)

/-- The printed line of a head says its rules, and nothing if it has none. -/
theorem readsAs_productionsOf (hg : g.WellFormed) (hhead : head ∈ g.nonterminals) :
    Document.ReadsAs (g.productionsOf head).toList
      ((g.spelledRules? head).map fun (head, bodies) => .rules head bodies) := by
  rw [toList_productionsOf, spelledRules?]
  split
  next => exact .none
  next hne =>
    exact Document.readsAs_rules (hg.upper head hhead) hne
      fun _ hbody _ => hg.isSymbol_of_mem_body hbody

/-- So the printed rules say, line by line, the rules of each nonterminal. -/
theorem forall₂_readsAs_productionsOf (hg : g.WellFormed) :
    List.Forall₂ Document.ReadsAs (g.nonterminals.map fun head => (g.productionsOf head).toList)
      (g.nonterminals.map fun head =>
        (g.spelledRules? head).map fun (head, bodies) => .rules head bodies) := by
  rw [List.forall₂_map_left_iff, List.forall₂_map_right_iff, List.forall₂_same]
  exact fun head hhead => hg.readsAs_productionsOf hhead

/-- The lines of the text say what the document says. -/
theorem reads_stateText (hg : g.WellFormed) (hstart : g.start = some start) :
    (g.document start).Reads (g.stateText start).toList := by
  have hdeclared := hg.isSymbol_of_nonterminal (hg.start_mem start hstart)
  have hlines := List.Forall₂.cons
    (Document.readsAs_nonterminals fun _ => hg.isSymbol_of_nonterminal)
    (.cons (Document.readsAs_terminals fun _ => hg.isSymbol_of_terminal)
      (.cons (Document.readsAs_start hdeclared) hg.forall₂_readsAs_productionsOf))
  have hread := Document.forall₂_says_of_readsAs hlines
  rw [Document.Reads, hg.visibleLines_stateText hstart]
  simpa [document, stateLines, List.map_filterMap, List.filterMap_map, Function.comp_def]
    using hread

end WellFormed

/-! ## What the text builds -/

section Document

variable (g start)

/-- The printed state declares the nonterminals, one by one. -/
theorem nonterminals_document : (g.document start).nonterminals = g.nonterminals.map ([·]) := by
  simp [Document.nonterminals, document, List.flatMap_map]

/-- It declares the terminals, one by one. -/
theorem terminals_document : (g.document start).terminals = g.terminals.map ([·]) := by
  simp [Document.terminals, document, List.flatMap_map]

/-- It sets the start symbol. -/
theorem start_document : (g.document start).start = [start] := by
  simp [Document.start, document, List.filterMap_map]

/-- It states the rules of each nonterminal that has some. -/
theorem rules_document :
    (g.document start).rules = g.nonterminals.filterMap g.spelledRules? := by
  simp [Document.rules, document, List.filterMap_map]

/-- The text spells the rules head by head. -/
theorem alternatives_document :
    (g.document start).alternatives = g.rulesByHead.map Rule.spelled := by
  rw [Document.alternatives, rules_document, rulesByHead]
  induction g.nonterminals with
  | nil => rfl
  | cons head rest ih =>
    have hspelled : (g.rules.filter (·.head == head)).map Rule.spelled =
        ((g.bodies head).map Body.symbols).map (([head], ·)) := by
      rw [← map_mk_bodies, List.map_map, List.map_map]
      rfl
    rw [List.flatMap_cons, List.map_append, ← ih, hspelled, List.filterMap_cons, spelledRules?]
    -- A head without bodies has no line, and no rules either.
    by_cases hnil : g.bodies head = []
    · simp [hnil]
    · simp [hnil]

variable {g}

/-- The rules mention declared symbols only. -/
theorem WellFormed.declared_of_mem_mentions (hg : g.WellFormed) {c : Char}
    (hc : c ∈ (g.document start).mentions) : c ∈ g.nonterminals ∨ c ∈ g.terminals := by
  rw [Document.mentions, rules_document] at hc
  obtain ⟨⟨spelled, bodies⟩, hrule, hmem⟩ := List.mem_flatMap.1 hc
  obtain ⟨head, hhead, hspelled⟩ := List.mem_filterMap.1 hrule
  rw [spelledRules?] at hspelled
  split at hspelled
  next => exact absurd hspelled (by simp)
  next =>
    obtain ⟨rfl, rfl⟩ := Prod.mk.inj (Option.some.inj hspelled)
    -- A line mentions its head and the symbols of its bodies.
    rcases List.mem_append.1 hmem with hsingle | hbodies
    · exact .inl (List.mem_singleton.1 hsingle ▸ hhead)
    · obtain ⟨symbols, hsymbols, hin⟩ := List.mem_flatten.1 hbodies
      obtain ⟨body, hbody, rfl⟩ := List.mem_map.1 hsymbols
      exact hg.declared_of_mem_body hbody hin

/-- The symbols of the text are the declared ones, in their order. -/
theorem WellFormed.vocabulary_document (hg : g.WellFormed) :
    (g.document start).vocabulary =
      { nonterminals := g.nonterminals, terminals := g.terminals } := by
  -- Rules mention declared symbols only, so reading them declares nothing new.
  have hnonterminals : (g.document start).mentions.filter isNonterminal ⊆ g.nonterminals := by
    intro c hc
    obtain ⟨hmention, hupper⟩ := List.mem_filter.1 hc
    refine (hg.declared_of_mem_mentions start hmention).resolve_right fun hmem => ?_
    exact Bool.false_ne_true ((isTerminal_eq_false hupper).symm.trans (hg.lower c hmem))
  have hterminals : (g.document start).mentions.filter isTerminal ⊆ g.terminals := by
    intro c hc
    obtain ⟨hmention, hlower⟩ := List.mem_filter.1 hc
    refine (hg.declared_of_mem_mentions start hmention).resolve_left fun hmem => ?_
    exact Bool.false_ne_true ((isNonterminal_eq_false hlower).symm.trans (hg.upper c hmem))
  have hflatten : ∀ cs : List Char, (cs.map ([·])).flatten = cs := by simp [← List.flatMap_def]
  rw [Document.vocabulary, nonterminals_document, terminals_document, hflatten, hflatten,
    eraseDups_append_of_subset hg.nonterminals_nodup hnonterminals,
    eraseDups_append_of_subset hg.terminals_nodup hterminals]

end Document

namespace WellFormed

/-- The text builds the grammar, with the rules of one head after those of another. -/
theorem build_document (hg : g.WellFormed) (hstart : g.start = some start) :
    (g.document start).build = .ok { g with rules := g.rulesByHead } := by
  have hvocabulary := hg.vocabulary_document start
  refine Document.build_eq_ok_iff_vocabulary.2 ⟨?_, ?_, start, g.rulesByHead, ?_, ?_,
    alternatives_document g start, ?_, hg.nodup_rulesByHead, ?_⟩
  · exact Document.declarable_iff.2
      ⟨g.nonterminals, nonterminals_document g start, hg.upper, hg.nonterminals_nodup⟩
  · exact Document.declarable_iff.2
      ⟨g.terminals, terminals_document g start, hg.lower, hg.terminals_nodup⟩
  -- The start symbol is printed, so no default is taken.
  · rw [Document.startFor?, start_document]
  · rw [hvocabulary]
    exact hg.start_mem start hstart
  · rw [hvocabulary]
    intro rule hrule
    have hmem := hg.mem_rulesByHead.1 hrule
    refine ⟨hg.head_mem rule hmem, ?_⟩
    have hdeclares := hg.body_mem rule hmem
    cases hbody : rule.body with
    | terminal symbol => rwa [hbody] at hdeclares
    | pair left right => rwa [hbody] at hdeclares
  · rw [hvocabulary, ← hstart]

end WellFormed

/-- A reachable grammar with a start symbol is read back from its text: the same symbols in the same
order, the same start symbol, and for every head the same bodies in the same order. -/
theorem ofText_stateText_same (hg : g.Reachable) (hstart : g.start = some start) :
    ∃ h, ofText (g.stateText start).toList = .ok h ∧ h.Same g := by
  have hwf := hg.wellFormed
  refine ⟨{ g with rules := g.rulesByHead }, ?_, rfl, rfl, rfl, fun head => ?_⟩
  · exact ofText_eq_ok_iff_build.2
      ⟨g.document start, hwf.reads_stateText hstart, hwf.build_document hstart⟩
  · rw [bodies, bodies, hwf.filter_rulesByHead]

/-- A grammar without terminals, with a nonterminal that no rule uses and with rules that were not
added head by head. -/
theorem ofText_stateText_same_unordered :
    let g : Grammar :=
      { nonterminals := ['Σ', 'S', 'Ж']
        start := some 'S'
        rules := [⟨'S', .pair 'Σ' 'S'⟩, ⟨'Σ', .pair 'Σ' 'Σ'⟩, ⟨'S', .pair 'S' 'S'⟩] }
    let text := "NONTERMINALS: Σ S Ж\nTERMINALS: \nSTART: S\nΣ::=ΣΣ\nS::=ΣS|SS\n\n"
    g.Reachable ∧ g.stateText 'S' = text ∧ ∃ h, ofText text.toList = .ok h ∧ h.Same g := by
  intro g text
  have hg : g.Reachable := .of_edits
    [.declareNonterminal (.text "Σ"), .declareNonterminal (.text "S"),
      .declareNonterminal (.text "Ж"), .setStart (.text "S"),
      .addRule (.text "S") (.text "ΣS"), .addRule (.text "Σ") (.text "ΣΣ"),
      .addRule (.text "S") (.text "SS")]
    (by decide +kernel)
  have htext : g.stateText 'S' = text := by decide +kernel
  exact ⟨hg, htext, htext ▸ ofText_stateText_same hg rfl⟩

end Grammar

end CykChart
