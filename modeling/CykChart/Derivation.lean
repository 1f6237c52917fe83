import CykChart.Grammar.Basic

/-!
# Derivations

What the rules of a grammar derive from a nonterminal: a rule with a terminal derives that one
symbol, and a rule with two nonterminals derives a word from the first followed by a word from the
second. In normal form every derivation is a binary tree over the word, so this relation is the
language that the charts decide.

## Main definitions

- `Grammar.Derives`: a nonterminal derives a word.

## Main results

- `Grammar.Derives.ne_nil`: no nonterminal derives the empty word.
- `Grammar.derives_iff`: the two ways in which a derivation begins.
-/

namespace CykChart.Grammar

/-- A nonterminal derives a word by the rules of a grammar. -/
inductive Derives (g : Grammar) : Char → List Char → Prop where
  /-- A rule with a terminal derives it. -/
  | terminal {head symbol : Char} (rule : ⟨head, .terminal symbol⟩ ∈ g.rules) :
      Derives g head [symbol]
  /-- A rule with two nonterminals derives what they derive, one word after the other. -/
  | pair {head left right : Char} {first second : List Char}
      (rule : ⟨head, .pair left right⟩ ∈ g.rules)
      (derivesFirst : Derives g left first) (derivesSecond : Derives g right second) :
      Derives g head (first ++ second)

/-- No nonterminal derives the empty word. -/
theorem Derives.ne_nil {g : Grammar} {head : Char} {word : List Char} (h : g.Derives head word) :
    word ≠ [] := by
  induction h with
  | terminal => simp
  | pair _ _ _ ihFirst => simp [ihFirst]

/-- A derivation begins with a rule for the only symbol of the word, or with a pair and a cut of
the word into what its two parts derive. -/
theorem derives_iff {g : Grammar} {head : Char} {word : List Char} :
    g.Derives head word ↔
      (∃ symbol, word = [symbol] ∧ ⟨head, .terminal symbol⟩ ∈ g.rules) ∨
      ∃ left right first second, word = first ++ second ∧ ⟨head, .pair left right⟩ ∈ g.rules ∧
        g.Derives left first ∧ g.Derives right second := by
  constructor
  · rintro (⟨rule⟩ | ⟨rule, derivesFirst, derivesSecond⟩)
    · exact Or.inl ⟨_, rfl, rule⟩
    · exact Or.inr ⟨_, _, _, _, rfl, rule, derivesFirst, derivesSecond⟩
  · rintro (⟨symbol, rfl, rule⟩ | ⟨left, right, first, second, rfl, rule, hfirst, hsecond⟩)
    · exact .terminal rule
    · exact .pair rule hfirst hsecond

end CykChart.Grammar
