import CykChart.Document.Reading
import CykChart.Proofs.LetterCase
import CykChart.Proofs.Preliminaries
import CykChart.Recogniser

/-!
# The states that building a grammar reaches

Every operation either takes one of five steps or is refused. `Grammar.Step` lists the steps with
their conditions, so that a fact about all operations is a case analysis over them. The invariant
`Grammar.WellFormed` holds of the empty grammar and is kept by each step, hence by every history of
operations, whatever data it hands over.

## Main definitions

- `Grammar.Step`: what an operation that is not refused does.
- `Grammar.WellFormed`: the invariant.
- `Grammar.rulesByHead`: the rules in the order in which their heads are declared.
- `Grammar.accepted`: the operations of a history that are not refused.

## Main results

- `Grammar.apply_eq_ok_iff`: operations succeed exactly as the steps say.
- `Grammar.WellFormed.performAll`: every history keeps the invariant.
- `Grammar.applyAll_accepted`: a history ends where its accepted operations alone would end.
-/

namespace CykChart

/-! ## What operations do -/

namespace Datum

/-- A datum is a character when it is a text that holds just that one. -/
theorem char?_eq_some_iff {datum : Datum} {c : Char} :
    datum.char? = some c ↔ datum.chars? = some [c] := by
  unfold char?
  constructor
  · intro h
    split at h
    next hchars =>
      rw [hchars, Option.some.inj h]
    next => exact absurd h (by simp)
  · intro h
    rw [h]

/-- A datum is a nonterminal when it is an upper-case character. -/
theorem nonterminal?_eq_some_iff {datum : Datum} {c : Char} :
    datum.nonterminal? = some c ↔ datum.char? = some c ∧ isNonterminal c = true := by
  simp [nonterminal?, Option.filter_eq_some_iff]

/-- A datum is a terminal when it is a lower-case character. -/
theorem terminal?_eq_some_iff {datum : Datum} {c : Char} :
    datum.terminal? = some c ↔ datum.char? = some c ∧ isTerminal c = true := by
  simp [terminal?, Option.filter_eq_some_iff]

end Datum

namespace Grammar

/-- The symbols of a body are declared, each as what the body takes it for. -/
def DeclaresBody (g : Grammar) : Body → Prop
  | .terminal symbol => symbol ∈ g.terminals
  | .pair left right => left ∈ g.nonterminals ∧ right ∈ g.nonterminals

/-- The steps from a grammar: the operations that are not refused, with the grammars they yield. -/
inductive Step (g : Grammar) : Edit → Grammar → Prop where
  /-- A new upper-case character is declared. -/
  | declareNonterminal {symbol : Datum} {c : Char} (hchar : symbol.char? = some c)
      (hupper : isNonterminal c = true) (hnew : c ∉ g.nonterminals) :
      Step g (.declareNonterminal symbol) { g with nonterminals := g.nonterminals ++ [c] }
  /-- A new lower-case character is declared. -/
  | declareTerminal {symbol : Datum} {c : Char} (hchar : symbol.char? = some c)
      (hlower : isTerminal c = true) (hnew : c ∉ g.terminals) :
      Step g (.declareTerminal symbol) { g with terminals := g.terminals ++ [c] }
  /-- A declared nonterminal becomes the start symbol. -/
  | setStart {symbol : Datum} {c : Char} (hchar : symbol.char? = some c)
      (hdeclared : c ∈ g.nonterminals) :
      Step g (.setStart symbol) { g with start := some c }
  /-- A new rule over declared symbols is added. -/
  | addRule {head body : Datum} {c : Char} {b : Body} (hhead : head.char? = some c)
      (hdeclared : c ∈ g.nonterminals) (hbody : body.joined? = some b.symbols)
      (hsymbols : g.DeclaresBody b) (hnew : ⟨c, b⟩ ∉ g.rules) :
      Step g (.addRule head body) { g with rules := g.rules ++ [⟨c, b⟩] }
  /-- Everything is removed. -/
  | clear : Step g .clear empty

variable {g next : Grammar}

/-- A nonterminal is declared when it is an upper-case character that is new. -/
theorem declareNonterminal_eq_ok_iff {symbol : Datum} :
    g.declareNonterminal symbol = .ok next ↔
      ∃ c, symbol.char? = some c ∧ isNonterminal c = true ∧ c ∉ g.nonterminals ∧
        next = { g with nonterminals := g.nonterminals ++ [c] } := by
  unfold declareNonterminal
  constructor
  · intro h
    split at h
    next => exact absurd h (by simp)
    next c hc =>
      obtain ⟨hchar, hupper⟩ := Datum.nonterminal?_eq_some_iff.1 hc
      split at h
      next => exact absurd h (by simp)
      next hnew => exact ⟨c, hchar, hupper, hnew, (Except.ok.inj h).symm⟩
  · rintro ⟨c, hchar, hupper, hnew, rfl⟩
    rw [Datum.nonterminal?_eq_some_iff.2 ⟨hchar, hupper⟩]
    exact if_neg hnew

/-- A terminal is declared when it is a lower-case character that is new. -/
theorem declareTerminal_eq_ok_iff {symbol : Datum} :
    g.declareTerminal symbol = .ok next ↔
      ∃ c, symbol.char? = some c ∧ isTerminal c = true ∧ c ∉ g.terminals ∧
        next = { g with terminals := g.terminals ++ [c] } := by
  unfold declareTerminal
  constructor
  · intro h
    split at h
    next => exact absurd h (by simp)
    next c hc =>
      obtain ⟨hchar, hlower⟩ := Datum.terminal?_eq_some_iff.1 hc
      split at h
      next => exact absurd h (by simp)
      next hnew => exact ⟨c, hchar, hlower, hnew, (Except.ok.inj h).symm⟩
  · rintro ⟨c, hchar, hlower, hnew, rfl⟩
    rw [Datum.terminal?_eq_some_iff.2 ⟨hchar, hlower⟩]
    exact if_neg hnew

/-- A datum names a nonterminal when it is a character that is declared as one. -/
theorem declaredNonterminal?_eq_some_iff {symbol : Datum} {c : Char} :
    g.declaredNonterminal? symbol = some c ↔ symbol.char? = some c ∧ c ∈ g.nonterminals := by
  simp [declaredNonterminal?, Option.filter_eq_some_iff]

/-- The start symbol is set when it is a declared nonterminal. -/
theorem setStart_eq_ok_iff {symbol : Datum} :
    g.setStart symbol = .ok next ↔
      ∃ c, symbol.char? = some c ∧ c ∈ g.nonterminals ∧ next = { g with start := some c } := by
  unfold setStart
  constructor
  · intro h
    split at h
    next => exact absurd h (by simp)
    next c hc =>
      obtain ⟨hchar, hmem⟩ := declaredNonterminal?_eq_some_iff.1 hc
      exact ⟨c, hchar, hmem, (Except.ok.inj h).symm⟩
  · rintro ⟨c, hchar, hmem, rfl⟩
    rw [declaredNonterminal?_eq_some_iff.2 ⟨hchar, hmem⟩]

/-- Symbols are read as a body exactly when they are its symbols and all are declared. -/
theorem readBody_eq_ok_iff {head : Char} {symbols : List Char} {body : Body} :
    g.readBody head symbols = .ok body ↔ body.symbols = symbols ∧ g.DeclaresBody body := by
  constructor
  · intro h
    -- One symbol, two symbols, or any other number of them.
    unfold readBody at h
    split at h
    · split at h
      next hmem => exact Except.ok.inj h ▸ ⟨rfl, hmem⟩
      next => exact absurd h (by simp)
    · split at h
      next hmem => exact Except.ok.inj h ▸ ⟨rfl, hmem⟩
      next => exact absurd h (by simp)
    · exact absurd h (by simp)
  · rintro ⟨rfl, hbody⟩
    cases body with
    | terminal symbol => exact if_pos hbody
    | pair left right => exact if_pos hbody

/-- A rule is added when its head is declared, its body is one over declared symbols, and it is new.
-/
theorem addRule_eq_ok_iff {head body : Datum} :
    g.addRule head body = .ok next ↔
      ∃ c b, head.char? = some c ∧ c ∈ g.nonterminals ∧ body.joined? = some b.symbols ∧
        g.DeclaresBody b ∧ ⟨c, b⟩ ∉ g.rules ∧ next = { g with rules := g.rules ++ [⟨c, b⟩] } := by
  unfold addRule addSymbols insertRule
  constructor
  -- The tests come in the order of the conditions, except that the body is joined first.
  · intro h
    split at h
    next => exact absurd h (by simp)
    next symbols hjoined =>
      split at h
      next => exact absurd h (by simp)
      next c hc =>
        obtain ⟨hchar, hmem⟩ := declaredNonterminal?_eq_some_iff.1 hc
        obtain ⟨b, hread, hinsert⟩ := bind_eq_ok_iff.1 h
        obtain ⟨rfl, hdeclared⟩ := readBody_eq_ok_iff.1 hread
        split at hinsert
        next => exact absurd hinsert (by simp)
        next hnew =>
          exact ⟨c, b, hchar, hmem, hjoined, hdeclared, hnew, (Except.ok.inj hinsert).symm⟩
  · rintro ⟨c, b, hchar, hmem, hjoined, hdeclared, hnew, rfl⟩
    simp only [hjoined, declaredNonterminal?_eq_some_iff.2 ⟨hchar, hmem⟩]
    exact bind_eq_ok_iff.2 ⟨b, readBody_eq_ok_iff.2 ⟨rfl, hdeclared⟩, if_neg hnew⟩

/-- Operations succeed exactly as the steps say. -/
theorem apply_eq_ok_iff {edit : Edit} : g.apply edit = .ok next ↔ g.Step edit next := by
  constructor
  · intro h
    cases edit with
    | declareNonterminal symbol =>
      obtain ⟨c, hchar, hupper, hnew, rfl⟩ := declareNonterminal_eq_ok_iff.1 h
      exact .declareNonterminal hchar hupper hnew
    | declareTerminal symbol =>
      obtain ⟨c, hchar, hlower, hnew, rfl⟩ := declareTerminal_eq_ok_iff.1 h
      exact .declareTerminal hchar hlower hnew
    | setStart symbol =>
      obtain ⟨c, hchar, hmem, rfl⟩ := setStart_eq_ok_iff.1 h
      exact .setStart hchar hmem
    | addRule head body =>
      obtain ⟨c, b, hchar, hmem, hjoined, hdeclared, hnew, rfl⟩ := addRule_eq_ok_iff.1 h
      exact .addRule hchar hmem hjoined hdeclared hnew
    | clear => exact Except.ok.inj h ▸ .clear
  · rintro (⟨hchar, hupper, hnew⟩ | ⟨hchar, hlower, hnew⟩ | ⟨hchar, hmem⟩ |
      ⟨hchar, hmem, hjoined, hdeclared, hnew⟩ | _)
    · exact declareNonterminal_eq_ok_iff.2 ⟨_, hchar, hupper, hnew, rfl⟩
    · exact declareTerminal_eq_ok_iff.2 ⟨_, hchar, hlower, hnew, rfl⟩
    · exact setStart_eq_ok_iff.2 ⟨_, hchar, hmem, rfl⟩
    · exact addRule_eq_ok_iff.2 ⟨_, _, hchar, hmem, hjoined, hdeclared, hnew, rfl⟩
    · rfl

/-! ## The invariant -/

/-- What every operation keeps: symbols are declared once and in their own case, and the start
symbol and the rules are over declared symbols. -/
structure WellFormed (g : Grammar) : Prop where
  /-- No nonterminal is declared twice. -/
  nonterminals_nodup : g.nonterminals.Nodup
  /-- Nonterminals are upper-case characters. -/
  upper : ∀ c ∈ g.nonterminals, isNonterminal c = true
  /-- No terminal is declared twice. -/
  terminals_nodup : g.terminals.Nodup
  /-- Terminals are lower-case characters. -/
  lower : ∀ c ∈ g.terminals, isTerminal c = true
  /-- The start symbol, once it is set, is declared. -/
  start_mem : ∀ c, g.start = some c → c ∈ g.nonterminals
  /-- No rule is there twice. -/
  rules_nodup : g.rules.Nodup
  /-- Heads are declared. -/
  head_mem : ∀ rule ∈ g.rules, rule.head ∈ g.nonterminals
  /-- Bodies are over declared symbols. -/
  body_mem : ∀ rule ∈ g.rules, g.DeclaresBody rule.body

/-- The symbols of a body stay declared when more symbols are. -/
theorem DeclaresBody.mono {body : Body} (h : g.DeclaresBody body)
    (hnonterminals : g.nonterminals ⊆ next.nonterminals)
    (hterminals : g.terminals ⊆ next.terminals) : next.DeclaresBody body := by
  cases body with
  | terminal symbol => exact hterminals h
  | pair left right => exact ⟨hnonterminals h.1, hnonterminals h.2⟩

/-- The empty grammar meets the invariant. -/
theorem wellFormed_empty : empty.WellFormed := by
  refine ⟨List.nodup_nil, ?_, List.nodup_nil, ?_, ?_, List.nodup_nil, ?_, ?_⟩ <;> simp [empty]

/-- The invariant allows a new nonterminal. -/
theorem WellFormed.addNonterminal (hg : g.WellFormed) {c : Char} (hupper : isNonterminal c = true)
    (hnew : c ∉ g.nonterminals) :
    WellFormed { g with nonterminals := g.nonterminals ++ [c] } where
  nonterminals_nodup := nodup_append_singleton hg.nonterminals_nodup hnew
  upper := forall_mem_append_singleton hg.upper hupper
  terminals_nodup := hg.terminals_nodup
  lower := hg.lower
  start_mem := fun s hs => List.mem_append_left _ (hg.start_mem s hs)
  rules_nodup := hg.rules_nodup
  head_mem := fun rule hrule => List.mem_append_left _ (hg.head_mem rule hrule)
  body_mem := fun rule hrule =>
    (hg.body_mem rule hrule).mono (List.subset_append_left _ _) (List.Subset.refl _)

/-- The invariant allows a new terminal. -/
theorem WellFormed.addTerminal (hg : g.WellFormed) {c : Char} (hlower : isTerminal c = true)
    (hnew : c ∉ g.terminals) :
    WellFormed { g with terminals := g.terminals ++ [c] } where
  nonterminals_nodup := hg.nonterminals_nodup
  upper := hg.upper
  terminals_nodup := nodup_append_singleton hg.terminals_nodup hnew
  lower := forall_mem_append_singleton hg.lower hlower
  start_mem := hg.start_mem
  rules_nodup := hg.rules_nodup
  head_mem := hg.head_mem
  body_mem := fun rule hrule =>
    (hg.body_mem rule hrule).mono (List.Subset.refl _) (List.subset_append_left _ _)

/-- Every step keeps the invariant. -/
theorem Step.wellFormed {edit : Edit} (h : g.Step edit next) (hg : g.WellFormed) :
    next.WellFormed := by
  cases h with
  | declareNonterminal _ hupper hnew => exact hg.addNonterminal hupper hnew
  | declareTerminal _ hlower hnew => exact hg.addTerminal hlower hnew
  | @setStart _ c _ hdeclared =>
    -- The rules are over the same symbols as before.
    refine { hg with start_mem := ?_, body_mem := fun rule hrule => ?_ }
    · intro s hs
      rw [Option.some.injEq] at hs
      exact hs ▸ hdeclared
    · exact (hg.body_mem rule hrule).mono (List.Subset.refl _) (List.Subset.refl _)
  | @addRule _ _ c b _ hdeclared _ hsymbols hnew =>
    refine { hg with
      rules_nodup := nodup_append_singleton hg.rules_nodup hnew
      head_mem := forall_mem_append_singleton hg.head_mem hdeclared
      body_mem := forall_mem_append_singleton (fun rule hrule => ?_) ?_ }
    · exact (hg.body_mem rule hrule).mono (List.Subset.refl _) (List.Subset.refl _)
    · exact hsymbols.mono (List.Subset.refl _) (List.Subset.refl _)
  | clear => exact wellFormed_empty

/-- Every operation keeps the invariant, refused or not. -/
theorem WellFormed.perform (hg : g.WellFormed) (edit : Edit) : (g.perform edit).WellFormed := by
  unfold Grammar.perform
  split
  next next hnext => exact (apply_eq_ok_iff.1 hnext).wellFormed hg
  next => exact hg

/-- Every history of operations keeps the invariant. -/
theorem WellFormed.performAll (hg : g.WellFormed) (edits : List Edit) :
    (g.performAll edits).WellFormed := by
  induction edits generalizing g with
  | nil => exact hg
  | cons edit edits ih => exact ih (hg.perform edit)

/-- No symbol is in both classes, as no character is in both cases. -/
theorem WellFormed.not_mem_terminals (hg : g.WellFormed) {c : Char} (hc : c ∈ g.nonterminals) :
    c ∉ g.terminals := by
  intro hterminal
  have hlower := hg.lower c hterminal
  rw [isTerminal_eq_false (hg.upper c hc)] at hlower
  exact Bool.noConfusion hlower

/-- A head has no body twice. -/
theorem WellFormed.bodies_nodup (hg : g.WellFormed) (head : Char) : (g.bodies head).Nodup := by
  unfold bodies
  apply (hg.rules_nodup.filter _).map_on
  rintro ⟨first, b⟩ hfirst ⟨second, b'⟩ hsecond rfl
  -- Two of the rules that are left have the same head, so the same body makes them the same.
  have hheadFirst : first = head := by simpa using (List.mem_filter.1 hfirst).2
  have hheadSecond : second = head := by simpa using (List.mem_filter.1 hsecond).2
  rw [hheadFirst, hheadSecond]

/-- The entries of the listing by head: the declared nonterminals that have bodies. -/
theorem mem_bodiesByHead {head : Char} {bs : List Body} :
    (head, bs) ∈ g.bodiesByHead ↔ head ∈ g.nonterminals ∧ bs ≠ [] ∧ bs = g.bodies head := by
  simp only [bodiesByHead, List.mem_filterMap, mem_sortBy]
  constructor
  · rintro ⟨c, hc, h⟩
    split at h
    next => exact absurd h (by simp)
    next hne =>
      obtain ⟨rfl, rfl⟩ := Prod.mk.inj (Option.some.inj h)
      exact ⟨hc, by simpa using hne, rfl⟩
  · rintro ⟨hhead, hne, rfl⟩
    exact ⟨head, hhead, if_neg (by simpa using hne)⟩

/-! ## Rules head by head -/

/-- The rules of a grammar, in the order in which their heads are declared. -/
def rulesByHead (g : Grammar) : List Rule :=
  g.nonterminals.flatMap fun head => g.rules.filter (·.head == head)

/-- The bodies of a head, put under it again, are its rules. -/
theorem map_mk_bodies (g : Grammar) (head : Char) :
    (g.bodies head).map (Rule.mk head) = g.rules.filter (·.head == head) := by
  rw [bodies, List.map_map]
  refine (List.map_congr_left fun rule hrule => ?_).trans (List.map_id _)
  have hhead : rule.head = head := beq_iff_eq.1 (List.mem_filter.1 hrule).2
  rw [← hhead]
  rfl

/-- Of rules that are listed head by head, those of one head are its rules if it is among the heads.
-/
theorem filter_flatMap_filter {heads : List Char} (hnodup : heads.Nodup) (rules : List Rule)
    (head : Char) :
    (heads.flatMap fun a => rules.filter (·.head == a)).filter (·.head == head) =
      if head ∈ heads then rules.filter (·.head == head) else [] := by
  induction heads with
  | nil => rfl
  | cons a rest ih =>
    obtain ⟨hnew, hrest⟩ := List.nodup_cons.1 hnodup
    rw [List.flatMap_cons, List.filter_append, ih hrest, List.filter_filter]
    by_cases ha : a = head
    · subst ha
      simp [hnew]
    -- No rule has two heads.
    · have hnone : rules.filter (fun rule => rule.head == head && rule.head == a) = [] := by
        rw [List.filter_eq_nil_iff]
        intro rule _ hboth
        simp only [Bool.and_eq_true, beq_iff_eq] at hboth
        exact ha (hboth.2.symm.trans hboth.1)
      simp [hnone, Ne.symm ha]

namespace WellFormed

/-- Listing rules by heads loses none, since all heads are declared. -/
theorem mem_rulesByHead (hg : g.WellFormed) {rule : Rule} :
    rule ∈ g.rulesByHead ↔ rule ∈ g.rules := by
  rw [rulesByHead, List.mem_flatMap]
  constructor
  · rintro ⟨head, -, hrule⟩
    exact (List.mem_filter.1 hrule).1
  · intro hrule
    exact ⟨rule.head, hg.head_mem rule hrule, List.mem_filter.2 ⟨hrule, beq_self_eq_true _⟩⟩

/-- Listing rules by heads repeats none. -/
theorem nodup_rulesByHead (hg : g.WellFormed) : g.rulesByHead.Nodup := by
  refine List.nodup_flatMap.2 ⟨fun head _ => hg.rules_nodup.filter _, ?_⟩
  refine hg.nonterminals_nodup.imp fun {first second} hne rule hfirst hsecond => hne ?_
  have hheadFirst : rule.head = first := beq_iff_eq.1 (List.mem_filter.1 hfirst).2
  have hheadSecond : rule.head = second := beq_iff_eq.1 (List.mem_filter.1 hsecond).2
  exact hheadFirst.symm.trans hheadSecond

/-- Every head keeps its rules, in their order. -/
theorem filter_rulesByHead (hg : g.WellFormed) (head : Char) :
    g.rulesByHead.filter (·.head == head) = g.rules.filter (·.head == head) := by
  rw [rulesByHead, filter_flatMap_filter hg.nonterminals_nodup]
  split
  next => rfl
  next hhead =>
    rw [eq_comm, List.filter_eq_nil_iff]
    intro rule hrule hsame
    exact hhead (beq_iff_eq.1 hsame ▸ hg.head_mem rule hrule)

end WellFormed

/-! ## Histories -/

/-- The operations of a history that are not refused. -/
def accepted (g : Grammar) : List Edit → List Edit
  | [] => []
  | edit :: rest =>
    match g.apply edit with
    | .ok next => edit :: next.accepted rest
    | .error _ => g.accepted rest

/-- A row of operations succeeds when the first one does, and the rest from where it led. -/
theorem applyAll_cons_eq_ok_iff {edit : Edit} {rest : List Edit} :
    g.applyAll (edit :: rest) = .ok next ↔
      ∃ middle, g.apply edit = .ok middle ∧ middle.applyAll rest = .ok next := by
  rw [applyAll, List.foldlM_cons]
  exact bind_eq_ok_iff

/-- A history ends where its accepted operations alone would end. -/
theorem applyAll_accepted (g : Grammar) (edits : List Edit) :
    g.applyAll (g.accepted edits) = .ok (g.performAll edits) := by
  -- By induction on the history: an operation is accepted or has no effect.
  induction edits generalizing g with
  | nil => rfl
  | cons edit rest ih =>
    rw [accepted, performAll, List.foldl_cons, perform]
    cases h : g.apply edit with
    | ok next => exact applyAll_cons_eq_ok_iff.2 ⟨next, h, ih next⟩
    | error refusal => exact ih g

/-- A refused operation has no effect. -/
theorem perform_eq_self {edit : Edit} {refusal : Refusal} (h : g.apply edit = .error refusal) :
    g.perform edit = g := by
  rw [perform, h]

end Grammar

namespace Recogniser

variable {r : Recogniser}

/-- A recogniser's operations are those of its grammar. -/
theorem map_grammar_apply (r : Recogniser) (edit : Edit) :
    Recogniser.grammar <$> r.apply edit = r.grammar.apply edit := by
  -- Only the recorded cells depend on which operation it is.
  cases h : r.grammar.apply edit <;> cases edit <;> simp_all [apply, Functor.map, Except.map]

/-- What its grammar refuses a recogniser refuses. -/
theorem apply_eq_error {edit : Edit} {refusal : Refusal}
    (h : r.grammar.apply edit = .error refusal) : r.apply edit = .error refusal := by
  unfold apply
  rw [h]

/-- A refused operation has no effect on a recogniser either, its record included. -/
theorem perform_eq_self {edit : Edit} {refusal : Refusal}
    (h : r.grammar.apply edit = .error refusal) : r.perform edit = r := by
  rw [perform, apply_eq_error h]

/-- An operation on a recogniser has the same effect on its grammar. -/
theorem grammar_perform (r : Recogniser) (edit : Edit) :
    (r.perform edit).grammar = r.grammar.perform edit := by
  rw [perform, Grammar.perform, ← map_grammar_apply]
  cases r.apply edit <;> rfl

/-- So has a history of operations. -/
theorem grammar_performAll (r : Recogniser) (edits : List Edit) :
    (r.performAll edits).grammar = r.grammar.performAll edits := by
  induction edits generalizing r with
  | nil => rfl
  | cons edit rest ih =>
    rw [performAll, List.foldl_cons, Grammar.performAll, List.foldl_cons, ← grammar_perform]
    exact ih _

end Recogniser

end CykChart
