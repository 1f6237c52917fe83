import CykChart.Derivation
import CykChart.Proofs.Building
import Mathlib.Logic.Relation

/-!
# Rewriting of sentential forms

A sentential form is a text of nonterminals and terminals. One step of rewriting replaces one
occurrence of a head by one of its bodies, anywhere in the form; a form yields what any number of
steps makes of it. In a well-formed grammar a nonterminal yields a word of terminals exactly when it
derives it, so the order in which occurrences are replaced does not matter.

## Main definitions

- `Grammar.Rewrites`, `Grammar.Yields`: one step, and any number of steps.
- `Grammar.Spells`: each nonterminal of a form derives a stretch of a word, in order.

## Main results

- `Grammar.Derives.yields`: what is derived is yielded.
- `Grammar.Yields.spells`: a form spells every word of terminals that it yields.
- `Grammar.yields_iff_derives`: both relations agree on words of terminals.
-/

namespace CykChart.Grammar

variable {g : Grammar}

/-- One step of rewriting: an occurrence of a head is replaced by one of its bodies. -/
inductive Rewrites (g : Grammar) : List Char → List Char → Prop where
  | replace (before after : List Char) {rule : Rule} (hrule : rule ∈ g.rules) :
      Rewrites g (before ++ rule.head :: after) (before ++ rule.body.symbols ++ after)

/-- Any number of steps of rewriting. -/
def Yields (g : Grammar) : List Char → List Char → Prop :=
  Relation.ReflTransGen g.Rewrites

/-! ## From derivations to rewriting -/

/-- What stands before the symbol that is rewritten plays no part. -/
theorem Rewrites.append_left {form next : List Char} (h : g.Rewrites form next)
    (left : List Char) : g.Rewrites (left ++ form) (left ++ next) := by
  obtain ⟨before, after, hrule⟩ := h
  simpa only [List.append_assoc] using Rewrites.replace (left ++ before) after hrule

/-- Nor does what stands behind it. -/
theorem Rewrites.append_right {form next : List Char} (h : g.Rewrites form next)
    (right : List Char) : g.Rewrites (form ++ right) (next ++ right) := by
  obtain ⟨before, after, hrule⟩ := h
  simpa only [List.append_assoc, List.cons_append] using
    Rewrites.replace before (after ++ right) hrule

/-- Two neighbouring parts of a form can be rewritten independently. -/
theorem Yields.append {first first' second second' : List Char} (hfirst : g.Yields first first')
    (hsecond : g.Yields second second') : g.Yields (first ++ second) (first' ++ second') := by
  have hleft : g.Yields (first ++ second) (first' ++ second) :=
    hfirst.lift (· ++ second) fun _ _ h => h.append_right second
  have hright : g.Yields (first' ++ second) (first' ++ second') :=
    hsecond.lift (first' ++ ·) fun _ _ h => h.append_left first'
  exact hleft.trans hright

/-- A head yields what its body does. -/
theorem Yields.of_body {rule : Rule} {word : List Char} (hrule : rule ∈ g.rules)
    (h : g.Yields rule.body.symbols word) : g.Yields [rule.head] word := by
  have hstep : g.Rewrites [rule.head] rule.body.symbols := by
    simpa using Rewrites.replace [] [] hrule
  exact h.head hstep

/-- What is derived is yielded. -/
theorem Derives.yields {head : Char} {word : List Char} (h : g.Derives head word) :
    g.Yields [head] word := by
  induction h with
  | terminal hrule => exact Yields.of_body hrule Relation.ReflTransGen.refl
  | pair hrule _ _ ihFirst ihSecond => exact Yields.of_body hrule (ihFirst.append ihSecond)

/-! ## From rewriting to derivations -/

/-- A form spells a word when the word falls into stretches, one for each symbol of the form: a
nonterminal derives its stretch, and any other symbol is its stretch. -/
inductive Spells (g : Grammar) : List Char → List Char → Prop where
  | nil : Spells g [] []
  | symbol {c : Char} {form word : List Char} (hc : isNonterminal c = false)
      (hrest : Spells g form word) : Spells g (c :: form) (c :: word)
  | nonterminal {c : Char} {form first rest : List Char} (hc : isNonterminal c = true)
      (hfirst : g.Derives c first) (hrest : Spells g form rest) :
      Spells g (c :: form) (first ++ rest)

/-- Forms one after the other spell words one after the other. -/
theorem Spells.append {form form' word word' : List Char} (h : g.Spells form word)
    (h' : g.Spells form' word') : g.Spells (form ++ form') (word ++ word') := by
  induction h with
  | nil => exact h'
  | symbol hc _ ih => exact .symbol hc ih
  | nonterminal hc hfirst _ ih =>
    rw [List.append_assoc]
    exact .nonterminal hc hfirst ih

/-- A word that a form with two parts spells can be cut between the parts. -/
theorem Spells.exists_cut {form form' word : List Char} (h : g.Spells (form ++ form') word) :
    ∃ first rest, word = first ++ rest ∧ g.Spells form first ∧ g.Spells form' rest := by
  -- By induction on the first part: the stretch of its first symbol goes to the left.
  induction form generalizing word with
  | nil => exact ⟨[], word, rfl, .nil, h⟩
  | cons c form ih =>
    cases h with
    | symbol hc hrest =>
      obtain ⟨first, rest, rfl, hform, hform'⟩ := ih hrest
      exact ⟨c :: first, rest, rfl, .symbol hc hform, hform'⟩
    | nonterminal hc hfirst hrest =>
      obtain ⟨first, rest, rfl, hform, hform'⟩ := ih hrest
      exact ⟨_ ++ first, rest, (List.append_assoc _ _ _).symm, .nonterminal hc hfirst hform, hform'⟩

/-- A word without nonterminals spells itself. -/
theorem spells_self {word : List Char} (hword : ∀ c ∈ word, isNonterminal c = false) :
    g.Spells word word := by
  induction word with
  | nil => exact .nil
  | cons c word ih =>
    rw [List.forall_mem_cons] at hword
    exact .symbol hword.1 (ih hword.2)

/-- A symbol that is no nonterminal spells itself only. -/
theorem Spells.eq_of_symbol {c : Char} {word : List Char} (hc : isNonterminal c = false)
    (h : g.Spells [c] word) : word = [c] := by
  cases h with
  | symbol _ hrest =>
    cases hrest
    rfl
  | nonterminal hc' => exact absurd hc' (by simp [hc])

/-- What a nonterminal spells by itself it derives. -/
theorem Spells.derives {c : Char} {word : List Char} (hc : isNonterminal c = true)
    (h : g.Spells [c] word) : g.Derives c word := by
  cases h with
  | symbol hc' => exact absurd hc' (by simp [hc])
  | nonterminal _ hfirst hrest =>
    cases hrest
    rwa [List.append_nil]

/-- A head derives every word that its body spells. -/
theorem WellFormed.derives_of_spells (hg : g.WellFormed) {rule : Rule} {word : List Char}
    (hrule : rule ∈ g.rules) (h : g.Spells rule.body.symbols word) : g.Derives rule.head word := by
  -- Declared symbols have the case that the body takes them to have.
  have hbody := hg.body_mem rule hrule
  obtain ⟨head, body⟩ := rule
  cases body with
  | terminal symbol =>
    have hlower := isNonterminal_eq_false (hg.lower symbol hbody)
    rw [h.eq_of_symbol hlower]
    exact .terminal hrule
  | pair left right =>
    have hcut : g.Spells ([left] ++ [right]) word := h
    obtain ⟨first, second, rfl, hleft, hright⟩ := hcut.exists_cut
    exact .pair hrule (hleft.derives (hg.upper left hbody.1))
      (hright.derives (hg.upper right hbody.2))

/-- A step of rewriting is undone by a derivation that begins with the rule it used. -/
theorem WellFormed.spells_of_rewrites (hg : g.WellFormed) {form next word : List Char}
    (hstep : g.Rewrites form next) (h : g.Spells next word) : g.Spells form word := by
  obtain ⟨before, after, hrule⟩ := hstep
  -- The word is cut where the body begins and ends; its middle part is derived from the head.
  obtain ⟨front, last, rfl, hfront, hafter⟩ := h.exists_cut
  obtain ⟨first, middle, rfl, hbefore, hbody⟩ := hfront.exists_cut
  have hupper := hg.upper _ (hg.head_mem _ hrule)
  rw [List.append_assoc]
  exact hbefore.append (.nonterminal hupper (hg.derives_of_spells hrule hbody) hafter)

/-- A form spells every word of terminals that it yields. -/
theorem WellFormed.spells_of_yields (hg : g.WellFormed) {form word : List Char}
    (hword : ∀ c ∈ word, isNonterminal c = false) (h : g.Yields form word) :
    g.Spells form word := by
  -- By induction from the end: the word spells itself, and each step back keeps it spelled.
  induction h using Relation.ReflTransGen.head_induction_on with
  | refl => exact spells_self hword
  | head hstep _ ih => exact hg.spells_of_rewrites hstep ih

/-- A declared nonterminal yields a word of declared terminals exactly when it derives it. -/
theorem WellFormed.yields_iff_derives (hg : g.WellFormed) {head : Char} {word : List Char}
    (hhead : head ∈ g.nonterminals) (hword : ∀ c ∈ word, c ∈ g.terminals) :
    g.Yields [head] word ↔ g.Derives head word := by
  constructor
  · intro h
    have hlower : ∀ c ∈ word, isNonterminal c = false := fun c hc =>
      isNonterminal_eq_false (hg.lower c (hword c hc))
    exact (hg.spells_of_yields hlower h).derives (hg.upper head hhead)
  · exact Derives.yields

end CykChart.Grammar
