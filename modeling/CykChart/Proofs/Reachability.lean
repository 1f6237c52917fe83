import CykChart.Proofs.Building
import CykChart.Proofs.Requests

/-!
# Reachable grammars

A grammar comes about in one of four ways: it is new, it is read from a text, an operation makes it
from a reachable grammar, or it is the copy of a recogniser's grammar. A copy of a plain grammar is
the same value and needs no case of its own. Each way keeps the invariant.

## Main definitions

- `Recogniser.Reachable`, `Grammar.Reachable`: the recognisers and grammars that can come about.

## Main results

- `Grammar.wellFormed_ofText`: a grammar read from a text is well formed.
- `Grammar.Reachable.wellFormed`: every reachable grammar is.
-/

namespace CykChart

/-- The recognisers that can come about. -/
inductive Recogniser.Reachable : Recogniser → Prop where
  | new : Recogniser.Reachable {}
  | ofText {text : List Char} {g : Grammar} (h : Grammar.ofText text = .ok g) :
      Recogniser.Reachable { grammar := g }
  | perform {r : Recogniser} (h : r.Reachable) (edit : Edit) : Recogniser.Reachable (r.perform edit)
  | accepts {r : Recogniser} (h : r.Reachable) (word : List Char) :
      Recogniser.Reachable (r.accepts word).2
  | table {r : Recogniser} (h : r.Reachable) (word : List Char) :
      Recogniser.Reachable (r.table word).2

/-- The grammars that can come about. -/
inductive Grammar.Reachable : Grammar → Prop where
  | empty : Grammar.Reachable Grammar.empty
  | ofText {text : List Char} {g : Grammar} (h : Grammar.ofText text = .ok g) :
      Grammar.Reachable g
  | perform {g : Grammar} (h : g.Reachable) (edit : Edit) : Grammar.Reachable (g.perform edit)
  | copy {r : Recogniser} (h : r.Reachable) : Grammar.Reachable r.grammar

namespace Grammar

variable {g next : Grammar}

/-- Operations none of which is refused keep the invariant. -/
theorem WellFormed.applyAll (hg : g.WellFormed) {edits : List Edit}
    (h : g.applyAll edits = .ok next) : next.WellFormed := by
  -- By induction on the operations, each of which is a step.
  induction edits generalizing g with
  | nil => exact Except.ok.inj h ▸ hg
  | cons edit rest ih =>
    obtain ⟨middle, hedit, hrest⟩ := applyAll_cons_eq_ok_iff.1 h
    exact ih ((apply_eq_ok_iff.1 hedit).wellFormed hg) hrest

/-- Declaring what a rule mentions keeps the invariant. -/
theorem WellFormed.mention (hg : g.WellFormed) (c : Char) : (g.mention c).WellFormed := by
  unfold Grammar.mention
  split
  next => exact hg
  next hnew =>
    simp only [declares, List.contains_eq_mem, Bool.or_eq_true, decide_eq_true_eq, not_or] at hnew
    split
    next hupper => exact hg.addNonterminal hupper hnew.1
    next =>
      split
      next hlower => exact hg.addTerminal hlower hnew.2
      next => exact hg

/-- Declaring what a text mentions keeps the invariant, as each symbol is declared in its own case.
-/
theorem WellFormed.mentions (hg : g.WellFormed) (symbols : List Char) :
    (symbols.foldl Grammar.mention g).WellFormed := by
  induction symbols generalizing g with
  | nil => exact hg
  | cons c rest ih => exact ih (hg.mention c)

end Grammar

/-- Building the grammar of a document succeeds when its declarations do, a start symbol is found,
and setting it and adding the rules succeed. -/
theorem Document.build_eq_ok_iff {document : Document} {g : Grammar} :
    document.build = .ok g ↔
      ∃ declared symbol, Grammar.empty.applyAll document.declarations = .ok declared ∧
        document.startFor? (document.mentions.foldl Grammar.mention declared) = some symbol ∧
        (document.mentions.foldl Grammar.mention declared).applyAll
          (.setStart (datum symbol) :: document.additions) = .ok g := by
  unfold Document.build
  constructor
  · intro h
    -- The stages are declarations, mentions, start symbol and rules.
    obtain ⟨declared, hdeclared, hrest⟩ := bind_eq_ok_iff.1 h
    dsimp only at hrest
    split at hrest
    next => exact absurd hrest (by simp)
    next symbol hsymbol =>
      exact ⟨declared, symbol, mapError_eq_ok_iff.1 hdeclared, hsymbol, mapError_eq_ok_iff.1 hrest⟩
  · rintro ⟨declared, symbol, hdeclared, hsymbol, hbuilt⟩
    refine bind_eq_ok_iff.2 ⟨declared, mapError_eq_ok_iff.2 hdeclared, ?_⟩
    simp only [hsymbol]
    exact mapError_eq_ok_iff.2 hbuilt

namespace Grammar

/-- A grammar read from a text is well formed. -/
theorem wellFormed_ofText {text : List Char} {g : Grammar} (h : ofText text = .ok g) :
    g.WellFormed := by
  obtain ⟨document, -, hbuild⟩ := bind_eq_ok_iff.1 h
  obtain ⟨declared, symbol, hdeclared, -, hbuilt⟩ := Document.build_eq_ok_iff.1 hbuild
  -- Declarations, first mentions, and the start symbol with the rules keep it one after the other.
  have hdeclaredWf : declared.WellFormed := wellFormed_empty.applyAll hdeclared
  exact (hdeclaredWf.mentions document.mentions).applyAll hbuilt

end Grammar

/-- The grammar of a reachable recogniser is well formed. -/
theorem Recogniser.Reachable.wellFormed {r : Recogniser} (h : r.Reachable) :
    r.grammar.WellFormed := by
  induction h with
  | new => exact Grammar.wellFormed_empty
  | ofText h => exact Grammar.wellFormed_ofText h
  | perform _ edit ih =>
    rw [Recogniser.grammar_perform]
    exact ih.perform edit
  | @accepts r _ word ih =>
    -- A request changes the record only.
    rw [r.grammar_accepts]
    exact ih
  | @table r _ word ih =>
    rw [r.grammar_table]
    exact ih

/-- A history of operations leads from reachable grammars to reachable ones. -/
theorem Grammar.Reachable.performAll {g : Grammar} (h : g.Reachable) (edits : List Edit) :
    (g.performAll edits).Reachable := by
  induction edits generalizing g with
  | nil => exact h
  | cons edit edits ih => exact ih (h.perform edit)

/-- What a history of operations makes of the empty grammar is reachable. -/
theorem Grammar.Reachable.of_edits {g : Grammar} (edits : List Edit)
    (h : Grammar.empty.performAll edits = g) : g.Reachable :=
  h ▸ Reachable.empty.performAll edits

/-- Every reachable grammar is well formed. -/
theorem Grammar.Reachable.wellFormed {g : Grammar} (h : g.Reachable) : g.WellFormed := by
  induction h with
  | empty => exact Grammar.wellFormed_empty
  | ofText h => exact Grammar.wellFormed_ofText h
  | perform _ edit ih => exact ih.perform edit
  | copy h => exact h.wellFormed

end CykChart
