import CykChart.Grammar.Printer
import CykChart.Proofs.Retention

/-!
# Same grammars behave alike

Two histories can lead to the same grammar although they added the rules of different heads in
different orders. Nothing tells such grammars apart: whatever is printed, put over masks or asked
reads the rules head by head, and every operation is refused alike or leads to grammars that are
the same again. So they stay alike under all later operations, whether they stand by themselves or
in recognisers, and whatever the recognisers have recorded.

## Main definitions

- `Grammar.ShownAlike`: grammars that nothing shown of them tells apart.
- `Grammar.EndAlike`: outcomes of an operation that are alike.
- `Subject`: a grammar by itself or a recogniser.

## Main results

- `Grammar.same_equivalence`: being the same is an equivalence.
- `Grammar.Same.shownAlike`, `Grammar.Same.endAlike_apply`: what is shown, and one operation.
- `Grammar.same_bisimulation`: all later operations.
-/

namespace CykChart

namespace Grammar

variable {g h : Grammar}

/-- Being the same is an equivalence. -/
theorem same_equivalence : Equivalence Same where
  refl := Same.refl
  symm := by
    rintro g h ⟨hnonterminals, hterminals, hstart, hbodies⟩
    exact ⟨hnonterminals.symm, hterminals.symm, hstart.symm, fun head => (hbodies head).symm⟩
  trans := by
    rintro g h k ⟨hnonterminals, hterminals, hstart, hbodies⟩
      ⟨knonterminals, kterminals, kstart, kbodies⟩
    exact ⟨hnonterminals.trans knonterminals, hterminals.trans kterminals, hstart.trans kstart,
      fun head => (hbodies head).trans (kbodies head)⟩

namespace Same

/-! ## What is shown of a grammar -/

/-- The same grammars have the same nonterminals, in their order. -/
theorem nonterminals_eq (same : g.Same h) : g.nonterminals = h.nonterminals :=
  same.1

/-- The same grammars have the same terminals, in their order. -/
theorem terminals_eq (same : g.Same h) : g.terminals = h.terminals :=
  same.2.1

/-- Each head has the same bodies, in their order. -/
theorem bodies_eq (same : g.Same h) (head : Char) : g.bodies head = h.bodies head :=
  same.2.2.2 head

/-- The rules are the same, but for the order of rules with different heads. -/
theorem mem_rules_iff (same : g.Same h) {rule : Rule} : rule ∈ g.rules ↔ rule ∈ h.rules := by
  rw [← mem_bodies, ← mem_bodies, same.bodies_eq]

/-- One of the two has rules when the other has. -/
theorem rules_eq_nil_iff (same : g.Same h) : g.rules = [] ↔ h.rules = [] := by
  simp only [List.eq_nil_iff_forall_not_mem, same.mem_rules_iff]

/-- The rules of each head are printed alike. -/
theorem productionsOf_eq (same : g.Same h) (head : Char) :
    g.productionsOf head = h.productionsOf head := by
  simp only [productionsOf, same.bodies_eq]

/-- All rules are printed alike, because nonterminals are gone through in the same order. -/
theorem productions_eq (same : g.Same h) : g.productions = h.productions := by
  simp only [productions, same.productionsOf_eq, same.nonterminals_eq]

/-- The state is printed alike. -/
theorem summary_eq (same : g.Same h) : g.summary = h.summary := by
  have hline : g.summaryLine = h.summaryLine := by
    funext head
    simp only [summaryLine, same.bodies_eq]
  obtain ⟨hnonterminals, hterminals, hstart, -⟩ := same
  unfold summary
  rw [hnonterminals, hterminals, hstart, hline]

/-- The rules over masks are gone through head by head, in the order of declaration. -/
theorem toBits_eq (same : g.Same h) : g.toBits = h.toBits := by
  obtain ⟨hnonterminals, hterminals, hstart, hbodies⟩ := id same
  -- Compiling looks at the rules through their bodies per head only.
  have hunary : ∀ numbering, g.unaryMasks numbering = h.unaryMasks numbering := by
    intro numbering
    simp only [unaryMasks, headsOf, hnonterminals, hterminals, hbodies]
  have hbinary : ∀ numbering, g.bitRules numbering = h.bitRules numbering := by
    intro numbering
    simp only [bitRules, hnonterminals, hbodies]
  by_cases hrules : g.rules = []
  · simp [toBits, hrules, same.rules_eq_nil_iff.1 hrules]
  · obtain ⟨rule, rest, hcons⟩ := List.exists_cons_of_ne_nil hrules
    obtain ⟨rule', rest', hcons'⟩ :=
      List.exists_cons_of_ne_nil (mt same.rules_eq_nil_iff.2 hrules)
    simp only [toBits, hcons, hcons', hnonterminals, hterminals, hstart, hunary, hbinary]
    cases h.start <;> rfl

/-- A word has the same chart, or the same error: charts are filled by the rules over masks. -/
theorem chart_eq (same : g.Same h) (word : List Char) : g.chart word = h.chart word := by
  rw [Grammar.chart, Grammar.chart, compiled, compiled, same.toBits_eq]

/-- Every question is answered alike. -/
theorem answer_eq (same : g.Same h) (word : List Char) (question : Question) :
    g.answer word question = h.answer word question := by
  cases question <;> simp only [answer, accepts_eq, table, drawing, same.chart_eq]

end Same

/-- Nothing that is shown of two grammars tells them apart: printed rules and state, the rules over
masks, the answers to questions about words, and which grammars they are the same as. Where there
is no value to show, both have the same error. -/
structure ShownAlike (g h : Grammar) : Prop where
  productionsUnder : ∀ symbol, g.productionsUnder symbol = h.productionsUnder symbol
  productions : g.productions = h.productions
  summary : g.summary = h.summary
  toBits : g.toBits = h.toBits
  chart : ∀ word, g.chart word = h.chart word
  accepts : ∀ word, g.accepts word = h.accepts word
  table : ∀ word, g.table word = h.table word
  drawing : ∀ word, Dot.Graph.source <$> g.drawing word = Dot.Graph.source <$> h.drawing word
  same_iff : ∀ other, g.Same other ↔ h.Same other

/-- Nothing tells the same grammars apart. -/
theorem Same.shownAlike (same : g.Same h) : g.ShownAlike h where
  productionsUnder := fun symbol => by
    have hof : g.productionsOf = h.productionsOf := funext same.productionsOf_eq
    rw [Grammar.productionsUnder, Grammar.productionsUnder, hof]
  productions := same.productions_eq
  summary := same.summary_eq
  toBits := same.toBits_eq
  chart := same.chart_eq
  accepts := fun word => by rw [Grammar.accepts_eq, Grammar.accepts_eq, same.chart_eq]
  table := fun word => by rw [Grammar.table, Grammar.table, same.chart_eq]
  drawing := fun word => by rw [Grammar.drawing, Grammar.drawing, same.chart_eq]
  same_iff := fun _ => ⟨same_equivalence.trans (same_equivalence.symm same),
    same_equivalence.trans same⟩

/-! ## One operation -/

/-- Two operations end alike: both are refused for the same reason, or both yield a grammar, and the
two grammars are the same. -/
inductive EndAlike : Except Refusal Grammar → Except Refusal Grammar → Prop where
  | refused (refusal : Refusal) : EndAlike (.error refusal) (.error refusal)
  | done {next other : Grammar} (same : next.Same other) : EndAlike (.ok next) (.ok other)

/-- A rule that is added comes last among the bodies of its head. -/
theorem bodies_append (g : Grammar) (rule : Rule) (head : Char) :
    bodies { g with rules := g.rules ++ [rule] } head =
      g.bodies head ++ if rule.head == head then [rule.body] else [] := by
  rw [bodies, bodies, List.filter_append, List.map_append, List.filter_singleton]
  cases rule.head == head <;> rfl

namespace Same

/-- A nonterminal is new to both grammars or to neither. -/
theorem endAlike_declareNonterminal (same : g.Same h) (symbol : Datum) :
    EndAlike (g.declareNonterminal symbol) (h.declareNonterminal symbol) := by
  obtain ⟨hnonterminals, hterminals, hstart, hbodies⟩ := same
  unfold declareNonterminal
  rw [hnonterminals]
  split
  · exact .refused _
  · split
    · exact .refused _
    · exact .done ⟨rfl, hterminals, hstart, hbodies⟩

/-- A terminal is declared in both or refused by both. -/
theorem endAlike_declareTerminal (same : g.Same h) (symbol : Datum) :
    EndAlike (g.declareTerminal symbol) (h.declareTerminal symbol) := by
  obtain ⟨hnonterminals, hterminals, hstart, hbodies⟩ := same
  unfold declareTerminal
  rw [hterminals]
  split
  · exact .refused _
  · split
    · exact .refused _
    · exact .done ⟨hnonterminals, rfl, hstart, hbodies⟩

/-- A datum names the same declared nonterminal in both. -/
theorem declaredNonterminal?_eq (same : g.Same h) (symbol : Datum) :
    g.declaredNonterminal? symbol = h.declaredNonterminal? symbol := by
  rw [declaredNonterminal?, declaredNonterminal?, same.nonterminals_eq]

/-- A start symbol is set in both or refused by both. -/
theorem endAlike_setStart (same : g.Same h) (symbol : Datum) :
    EndAlike (g.setStart symbol) (h.setStart symbol) := by
  unfold setStart
  rw [same.declaredNonterminal?_eq]
  obtain ⟨hnonterminals, hterminals, -, hbodies⟩ := same
  split
  · exact .refused _
  · exact .done ⟨hnonterminals, hterminals, rfl, hbodies⟩

/-- Symbols are the same body in both, or refused alike. -/
theorem readBody_eq (same : g.Same h) (head : Char) (symbols : List Char) :
    g.readBody head symbols = h.readBody head symbols := by
  unfold readBody
  simp only [same.nonterminals_eq, same.terminals_eq]

/-- A rule is new in both or in neither. -/
theorem endAlike_insertRule (same : g.Same h) (rule : Rule) :
    EndAlike (g.insertRule rule) (h.insertRule rule) := by
  unfold insertRule
  simp only [same.mem_rules_iff]
  obtain ⟨hnonterminals, hterminals, hstart, hbodies⟩ := same
  split
  · exact .refused _
  · refine .done ⟨hnonterminals, hterminals, hstart, fun head => ?_⟩
    rw [bodies_append, bodies_append, hbodies]

/-- A rule is added to both or refused by both. -/
theorem endAlike_addRule (same : g.Same h) (head body : Datum) :
    EndAlike (g.addRule head body) (h.addRule head body) := by
  unfold addRule addSymbols
  rw [same.declaredNonterminal?_eq]
  -- The tests before the last one read declared symbols only.
  split
  · exact .refused _
  · split
    · exact .refused _
    · rw [same.readBody_eq]
      cases h.readBody _ _ with
      | error refusal => exact .refused refusal
      | ok body => exact same.endAlike_insertRule _

/-- Every operation on two grammars that are the same ends alike. -/
theorem endAlike_apply (same : g.Same h) (edit : Edit) :
    EndAlike (g.apply edit) (h.apply edit) := by
  cases edit with
  | declareNonterminal symbol => exact same.endAlike_declareNonterminal symbol
  | declareTerminal symbol => exact same.endAlike_declareTerminal symbol
  | setStart symbol => exact same.endAlike_setStart symbol
  | addRule head body => exact same.endAlike_addRule head body
  | clear => exact .done (Same.refl empty)

/-- Grammars that are the same answer an operation alike and are the same after it. -/
theorem respond (same : g.Same h) (operation : Operation) :
    (g.respond operation).1 = (h.respond operation).1 ∧
      (g.respond operation).2.Same (h.respond operation).2 := by
  cases operation with
  | edit edit =>
    have hend := same.endAlike_apply edit
    simp only [Grammar.respond, perform]
    generalize g.apply edit = outcome at hend ⊢
    generalize h.apply edit = other at hend ⊢
    -- A refusal changes neither grammar.
    cases hend with
    | refused refusal => exact ⟨rfl, same⟩
    | done hnext => exact ⟨rfl, hnext⟩
  | requestAccepts word => exact ⟨same.answer_eq word .accepts, same⟩
  | requestTable word => exact ⟨same.answer_eq word .table, same⟩
  | ask question word => exact ⟨same.answer_eq word question, same⟩

/-- Grammars that are the same reply alike to any number of operations. -/
theorem run (same : g.Same h) (operations : List Operation) :
    (CykChart.run Grammar.respond g operations).1 =
        (CykChart.run Grammar.respond h operations).1 ∧
      (CykChart.run Grammar.respond g operations).2.Same
        (CykChart.run Grammar.respond h operations).2 := by
  induction operations generalizing g h with
  | nil => exact ⟨rfl, same⟩
  | cons operation rest ih =>
    obtain ⟨hreply, hnext⟩ := same.respond operation
    obtain ⟨hreplies, hlast⟩ := ih hnext
    exact ⟨congrArg₂ List.cons hreply hreplies, hlast⟩

end Same

end Grammar

/-! ## Grammars and recognisers -/

/-- What operations are put to: a grammar by itself or a recogniser. -/
inductive Subject where
  /-- A grammar by itself. -/
  | plain (g : Grammar)
  /-- A grammar with a record. -/
  | recogniser (r : Recogniser)

namespace Subject

/-- The grammar of a subject. -/
def grammar : Subject → Grammar
  | .plain g => g
  | .recogniser r => r.grammar

/-- A copy is a grammar by itself, also that of a recogniser. -/
def copy (subject : Subject) : Subject :=
  .plain subject.grammar

/-- The answer to an operation, and the subject after it. -/
def respond : Subject → Operation → Reply × Subject
  | .plain g, operation => (g.respond operation).map id Subject.plain
  | .recogniser r, operation => (r.respond operation).map id Subject.recogniser

/-- A run of operations on a subject is one on its grammar, with the same replies. -/
theorem run_eq (subject : Subject) (operations : List Operation) :
    (run respond subject operations).1 =
        (run Grammar.respond subject.grammar operations).1 ∧
      (run respond subject operations).2.grammar =
        (run Grammar.respond subject.grammar operations).2 := by
  induction operations generalizing subject with
  | nil => exact ⟨rfl, rfl⟩
  | cons operation rest ih =>
    -- One operation answers as the plain grammar does, whatever else the subject holds.
    have hstep : (subject.respond operation).1 = (subject.grammar.respond operation).1 ∧
        (subject.respond operation).2.grammar = (subject.grammar.respond operation).2 := by
      cases subject with
      | plain g => exact ⟨rfl, rfl⟩
      | recogniser r => exact r.respond_eq operation
    obtain ⟨hreply, hgrammar⟩ := hstep
    obtain ⟨hreplies, hlast⟩ := ih (subject.respond operation).2
    rw [hgrammar] at hreplies hlast
    exact ⟨congrArg₂ List.cons hreply hreplies, hlast⟩

end Subject

/-- Being the same is an equivalence under which nothing that is shown of two grammars tells them
apart and every operation ends alike. Of two subjects whose grammars are the same, each a grammar
by itself or a recogniser, every run of operations gets the same replies and ends with grammars
that are the same again and are still shown alike. A copy is the same as what it was made of. -/
theorem Grammar.same_bisimulation :
    Equivalence Grammar.Same ∧
    (∀ g h : Grammar, g.Same h → g.ShownAlike h ∧
      ∀ edit, EndAlike (g.apply edit) (h.apply edit)) ∧
    (∀ first second : Subject, first.grammar.Same second.grammar → ∀ operations,
      (run Subject.respond first operations).1 = (run Subject.respond second operations).1 ∧
      (run Subject.respond first operations).2.grammar.Same
        (run Subject.respond second operations).2.grammar ∧
      (run Subject.respond first operations).2.grammar.ShownAlike
        (run Subject.respond second operations).2.grammar) ∧
    ∀ subject : Subject, subject.copy.grammar.Same subject.grammar := by
  refine ⟨same_equivalence, fun g h same => ⟨same.shownAlike, same.endAlike_apply⟩, ?_,
    fun subject => Same.refl subject.grammar⟩
  intro first second same operations
  -- Both runs are those of the plain grammars, on which sameness is kept step by step.
  obtain ⟨hreplies, hgrammar⟩ := first.run_eq operations
  obtain ⟨hreplies', hgrammar'⟩ := second.run_eq operations
  obtain ⟨hsame, hlast⟩ := same.run operations
  rw [hreplies, hreplies', hgrammar, hgrammar']
  exact ⟨hsame, hlast, hlast.shownAlike⟩

/-- A grammar by itself and a recogniser with a record whose rules were added in different orders:
both refuse the rule that they have, and both accept `ba` once it has one more. -/
theorem Grammar.same_bisimulation_orders :
    let g : Grammar :=
      { nonterminals := ['S', 'A']
        terminals := ['a', 'b']
        start := some 'S'
        rules := [⟨'A', .terminal 'b'⟩, ⟨'S', .pair 'A' 'S'⟩] }
    let r : Recogniser :=
      { grammar := { g with rules := [⟨'S', .pair 'A' 'S'⟩, ⟨'A', .terminal 'b'⟩] }
        record := [['A']] }
    let operations : List Operation :=
      [.edit (.addRule (.text "A") (.text "b")), .edit (.addRule (.text "S") (.text "a"))]
    g.Same r.grammar ∧
      (run Subject.respond (.plain g) operations).2.grammar.accepts ['b', 'a'] = .ok true ∧
      (run Subject.respond (.recogniser r) operations).2.grammar.accepts ['b', 'a'] =
        .ok true := by
  intro g r operations
  have hsame : g.Same r.grammar := by decide +kernel
  obtain ⟨-, -, hruns, -⟩ := Grammar.same_bisimulation
  obtain ⟨-, -, hshown⟩ := hruns (.plain g) (.recogniser r) hsame operations
  have haccepts : (run Subject.respond (.plain g) operations).2.grammar.accepts ['b', 'a'] =
      .ok true := by
    decide +kernel
  exact ⟨hsame, haccepts, (hshown.accepts ['b', 'a']).symm.trans haccepts⟩

end CykChart
