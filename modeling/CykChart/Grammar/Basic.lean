import CykChart.Sorting
import CykChart.Text.Lowercase
import CykChart.Text.Uppercase

/-!
# Grammars in Chomsky normal form

Symbols are single characters. A nonterminal is an upper-case character and a terminal a
lower-case one, so no symbol is both. A rule replaces its head by one terminal or by two
nonterminals.

The rules of a grammar stand in one list, in the order in which they were added. Only the order of
the rules of one head can be observed, so `Grammar.Same` compares grammars head by head.

## Main definitions

- `Body`, `Rule`, `Grammar`: the data of a grammar.
- `Grammar.bodies`: the bodies of one head, in order.
- `Grammar.Same`: the equality that does not see how the rules of different heads interleave.
-/

namespace CykChart

/-- Whether a character can be a nonterminal. -/
def isNonterminal (c : Char) : Bool :=
  Text.isUppercase c

/-- Whether a character can be a terminal. -/
def isTerminal (c : Char) : Bool :=
  Text.isLowercase c

/-- The right-hand side of a rule. -/
inductive Body where
  /-- One terminal. -/
  | terminal (symbol : Char)
  /-- Two nonterminals. -/
  | pair (left right : Char)
  deriving DecidableEq, Repr

/-- The symbols of a body, in order. -/
def Body.symbols : Body → List Char
  | .terminal symbol => [symbol]
  | .pair left right => [left, right]

/-- Different bodies have different symbols. -/
theorem Body.symbols_injective {first second : Body} (h : first.symbols = second.symbols) :
    first = second := by
  cases first <;> cases second <;> simp_all [Body.symbols]

/-- A rule of a grammar. -/
structure Rule where
  /-- The nonterminal that the rule replaces. -/
  head : Char
  /-- What the rule puts in its place. -/
  body : Body
  deriving DecidableEq, Repr

/-- A grammar, complete or under construction. -/
structure Grammar where
  /-- The declared nonterminals, in order of declaration. -/
  nonterminals : List Char := []
  /-- The declared terminals, in order of declaration. -/
  terminals : List Char := []
  /-- The start symbol, once it is set. -/
  start : Option Char := none
  /-- The rules, in the order in which they were added. -/
  rules : List Rule := []
  deriving DecidableEq, Repr

namespace Grammar

/-- The grammar without symbols and rules. -/
def empty : Grammar := {}

/-- The bodies of the rules of one head, in the order in which they were added. -/
def bodies (g : Grammar) (head : Char) : List Body :=
  (g.rules.filter (·.head == head)).map (·.body)

/-- A body belongs to a head exactly when the grammar has the rule. -/
@[simp]
theorem mem_bodies {g : Grammar} {head : Char} {body : Body} :
    body ∈ g.bodies head ↔ ⟨head, body⟩ ∈ g.rules := by
  constructor
  · intro h
    obtain ⟨⟨other, found⟩, hrule, rfl⟩ := List.mem_map.1 h
    obtain ⟨hmem, hhead⟩ := List.mem_filter.1 hrule
    simp only [beq_iff_eq] at hhead
    exact hhead ▸ hmem
  · intro h
    exact List.mem_map.2 ⟨⟨head, body⟩, List.mem_filter.2 ⟨h, by simp⟩, rfl⟩

/-- Whether a symbol is declared as a nonterminal or as a terminal. -/
def declares (g : Grammar) (symbol : Char) : Bool :=
  g.nonterminals.contains symbol || g.terminals.contains symbol

/-- The nonterminals that have rules, with their bodies, by code point. -/
def bodiesByHead (g : Grammar) : List (Char × List Body) :=
  (sortBy symbolLe g.nonterminals).filterMap fun head =>
    if (g.bodies head).isEmpty then none else some (head, g.bodies head)

/-- Two grammars are the same when they have the same symbols in the same order, the same start
symbol, and for every head the same bodies in the same order. -/
def Same (g h : Grammar) : Prop :=
  g.nonterminals = h.nonterminals ∧ g.terminals = h.terminals ∧ g.start = h.start ∧
    ∀ head, g.bodies head = h.bodies head

/-- A head without rules has no bodies. -/
theorem bodies_eq_nil {g : Grammar} {head : Char} (h : head ∉ g.rules.map (·.head)) :
    g.bodies head = [] := by
  rw [List.eq_nil_iff_forall_not_mem]
  intro body hbody
  exact h (List.mem_map.2 ⟨_, mem_bodies.1 hbody, rfl⟩)

/-- Bodies need to be compared only for the heads that have rules. -/
theorem forall_bodies_eq_iff {g h : Grammar} :
    (∀ head, g.bodies head = h.bodies head) ↔
      ∀ rule ∈ g.rules ++ h.rules, g.bodies rule.head = h.bodies rule.head := by
  constructor
  · exact fun same rule _ => same rule.head
  · intro same head
    -- A head of no rule has no bodies in either grammar.
    by_cases hg : head ∈ g.rules.map (·.head)
    · obtain ⟨rule, hrule, rfl⟩ := List.mem_map.1 hg
      exact same rule (List.mem_append_left _ hrule)
    · by_cases hh : head ∈ h.rules.map (·.head)
      · obtain ⟨rule, hrule, rfl⟩ := List.mem_map.1 hh
        exact same rule (List.mem_append_right _ hrule)
      · rw [bodies_eq_nil hg, bodies_eq_nil hh]

/-- Whether two grammars are the same is decidable. -/
instance (g h : Grammar) : Decidable (g.Same h) :=
  decidable_of_iff
    (g.nonterminals = h.nonterminals ∧ g.terminals = h.terminals ∧ g.start = h.start ∧
      ∀ rule ∈ g.rules ++ h.rules, g.bodies rule.head = h.bodies rule.head)
    (by rw [Same, forall_bodies_eq_iff])

/-- Every grammar is the same as itself. -/
theorem Same.refl (g : Grammar) : g.Same g :=
  ⟨rfl, rfl, rfl, fun _ => rfl⟩

end Grammar

end CykChart
