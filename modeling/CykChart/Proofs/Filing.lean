import CykChart.Proofs.Reachability

/-!
# Rows of operations

What a grammar is after many operations of one kind: after declaring a row of nonterminals or of
terminals, after adding a row of rules, and after declaring what a text mentions. The first three
have the same shape. Each operation reads an entry from a text, checks it, and adds it at the end of
one list of the grammar, and the check does not look at that list except for the entry itself.

## Main definitions

- `Rule.spelled`: a rule as a text spells it.
- `Grammar.Filing`: operations that add to one list.

## Main results

- `Grammar.Filing.applyAll_eq_ok_iff`: when such operations succeed in a row, and what they yield.
- `Grammar.WellFormed.foldl_mention`: the symbols of a grammar after a text is gone through.
-/

namespace CykChart

/-- A rule as a text spells it. -/
def Rule.spelled (rule : Rule) : List Char × List Char :=
  ([rule.head], rule.body.symbols)

/-- A rule is known by its spelling. -/
theorem Rule.spelled_injective : Function.Injective Rule.spelled := by
  rintro ⟨head, body⟩ ⟨other, another⟩ h
  obtain ⟨hhead, hbody⟩ := Prod.mk.inj h
  rw [Rule.mk.injEq]
  exact ⟨List.head_eq_of_cons_eq hhead, Body.symbols_injective hbody⟩

/-! ## Rows of operations -/

namespace Grammar

variable {g next : Grammar}

/-- Two rows of operations succeed together when the first one does, and the second one from where
it led. -/
theorem applyAll_append_eq_ok_iff {first second : List Edit} :
    g.applyAll (first ++ second) = .ok next ↔
      ∃ middle, g.applyAll first = .ok middle ∧ middle.applyAll second = .ok next := by
  induction first generalizing g with
  | nil => simp [applyAll, pure, Except.pure]
  | cons edit rest ih =>
    simp only [List.cons_append, applyAll_cons_eq_ok_iff, ih]
    constructor
    · rintro ⟨middle, hedit, last, hrest, hsecond⟩
      exact ⟨last, ⟨middle, hedit, hrest⟩, hsecond⟩
    · rintro ⟨last, ⟨middle, hedit, hrest⟩, hsecond⟩
      exact ⟨middle, hedit, last, hrest, hsecond⟩

/-- A kind of operation that adds one entry to a list of the grammar, given the text that spells
the entry. -/
structure Filing (α β : Type) where
  /-- The operation for a text. -/
  edit : α → Edit
  /-- The text that spells an entry. -/
  spell : β → α
  /-- Whether a grammar allows an entry, apart from its being there already. -/
  fits : Grammar → β → Prop
  /-- The list. -/
  held : Grammar → List β
  /-- The grammar with entries added to the list. -/
  file : Grammar → List β → Grammar
  file_nil : ∀ g, file g [] = g
  file_append : ∀ g bs cs, file (file g bs) cs = file g (bs ++ cs)
  held_file : ∀ g bs, held (file g bs) = held g ++ bs
  fits_file : ∀ g bs b, fits (file g bs) b ↔ fits g b
  apply_eq_ok_iff : ∀ g a next, g.apply (edit a) = .ok next ↔
    ∃ b, a = spell b ∧ fits g b ∧ b ∉ held g ∧ next = file g [b]

/-- Operations of one kind succeed one after the other when their texts spell entries that the
grammar allows, none of which is there already or twice among them. -/
theorem Filing.applyAll_eq_ok_iff {α β : Type} (filing : Filing α β) {as : List α} :
    g.applyAll (as.map filing.edit) = .ok next ↔
      ∃ bs, as = bs.map filing.spell ∧ (∀ b ∈ bs, filing.fits g b) ∧ bs.Nodup ∧
        (∀ b ∈ bs, b ∉ filing.held g) ∧ next = filing.file g bs := by
  induction as generalizing g with
  | nil =>
    constructor
    · intro h
      refine ⟨[], rfl, by simp, List.nodup_nil, by simp, ?_⟩
      rw [filing.file_nil]
      exact (Except.ok.inj h).symm
    · rintro ⟨bs, hbs, -, -, -, rfl⟩
      obtain rfl := List.map_eq_nil_iff.1 hbs.symm
      rw [filing.file_nil]
      rfl
  | cons a as ih =>
    rw [List.map_cons, applyAll_cons_eq_ok_iff]
    simp only [filing.apply_eq_ok_iff, ih]
    constructor
    -- The later entries were checked against a list that has the first one already.
    · rintro ⟨_, ⟨b, rfl, hb, hnew, rfl⟩, bs, rfl, hall, hnodup, hothers, rfl⟩
      have hseparate : ∀ c ∈ bs, c ∉ filing.held g ∧ c ≠ b := by
        intro c hc
        have hother := hothers c hc
        rwa [filing.held_file, List.mem_append, List.mem_singleton, not_or] at hother
      refine ⟨b :: bs, rfl, ?_, ?_, ?_, filing.file_append g [b] bs⟩
      · exact List.forall_mem_cons.2 ⟨hb, fun c hc => (filing.fits_file g [b] c).1 (hall c hc)⟩
      · exact List.nodup_cons.2 ⟨fun hmem => (hseparate b hmem).2 rfl, hnodup⟩
      · exact List.forall_mem_cons.2 ⟨hnew, fun c hc => (hseparate c hc).1⟩
    -- Filing the first entry leaves the later ones allowed and, as they differ, new.
    · rintro ⟨bs, hspelled, hall, hnodup, hnew, rfl⟩
      obtain ⟨b, bs, rfl, rfl, rfl⟩ := List.map_eq_cons_iff.1 hspelled.symm
      obtain ⟨hb, hall⟩ := List.forall_mem_cons.1 hall
      obtain ⟨hnewb, hnew⟩ := List.forall_mem_cons.1 hnew
      obtain ⟨hnotMem, hnodup⟩ := List.nodup_cons.1 hnodup
      refine ⟨_, ⟨b, rfl, hb, hnewb, rfl⟩, bs, rfl, ?_, hnodup, ?_,
        (filing.file_append g [b] bs).symm⟩
      · exact fun c hc => (filing.fits_file g [b] c).2 (hall c hc)
      · intro c hc
        rw [filing.held_file, List.mem_append, List.mem_singleton, not_or]
        exact ⟨hnew c hc, fun heq => hnotMem (heq ▸ hc)⟩

/-- A text in a document names a character when it is that character alone. -/
theorem char?_datum_eq_some_iff {cs : List Char} {c : Char} :
    (Document.datum cs).char? = some c ↔ cs = [c] := by
  rw [Datum.char?_eq_some_iff, Document.datum, Datum.chars?, Option.some.injEq,
    String.toList_ofList]

/-- A text in a document is a body that spells itself. -/
theorem joined?_datum (cs : List Char) : (Document.datum cs).joined? = some cs := by
  rw [Document.datum, Datum.joined?, String.toList_ofList]

/-- Declaring nonterminals. -/
def declaringNonterminals : Filing (List Char) Char where
  edit token := .declareNonterminal (Document.datum token)
  spell c := [c]
  fits _ c := isNonterminal c = true
  held g := g.nonterminals
  file g cs := { g with nonterminals := g.nonterminals ++ cs }
  file_nil := by simp
  file_append := by simp
  held_file := by simp
  fits_file := by simp
  apply_eq_ok_iff := by
    intro g token next
    simp only [apply, declareNonterminal_eq_ok_iff, char?_datum_eq_some_iff]

/-- Declaring terminals. -/
def declaringTerminals : Filing (List Char) Char where
  edit token := .declareTerminal (Document.datum token)
  spell c := [c]
  fits _ c := isTerminal c = true
  held g := g.terminals
  file g cs := { g with terminals := g.terminals ++ cs }
  file_nil := by simp
  file_append := by simp
  held_file := by simp
  fits_file := by simp
  apply_eq_ok_iff := by
    intro g token next
    simp only [apply, declareTerminal_eq_ok_iff, char?_datum_eq_some_iff]

/-- Adding rules. -/
def addingRules : Filing (List Char × List Char) Rule where
  edit pair := .addRule (Document.datum pair.1) (Document.datum pair.2)
  spell rule := rule.spelled
  fits g rule := rule.head ∈ g.nonterminals ∧ g.DeclaresBody rule.body
  held g := g.rules
  file g rules := { g with rules := g.rules ++ rules }
  file_nil := by simp
  file_append := by simp
  held_file := by simp
  -- Adding rules declares nothing.
  fits_file := by
    rintro g rules ⟨head, body⟩
    cases body <;> rfl
  apply_eq_ok_iff := by
    intro g pair next
    simp only [apply, addRule_eq_ok_iff, char?_datum_eq_some_iff, joined?_datum,
      Option.some.injEq]
    constructor
    · rintro ⟨c, body, hhead, hmem, hbody, hdeclared, hnew, rfl⟩
      exact ⟨⟨c, body⟩, Prod.ext hhead hbody, ⟨hmem, hdeclared⟩, hnew, rfl⟩
    · rintro ⟨rule, rfl, ⟨hmem, hdeclared⟩, hnew, rfl⟩
      exact ⟨rule.head, rule.body, rfl, hmem, rfl, hdeclared, hnew, rfl⟩

/-! ## Symbols declared on their first mention -/

/-- An upper-case character that is mentioned is declared as a nonterminal, unless it is one. -/
theorem WellFormed.mention_of_upper (hg : g.WellFormed) {c : Char}
    (hupper : isNonterminal c = true) :
    g.mention c =
      if c ∈ g.nonterminals then g else { g with nonterminals := g.nonterminals ++ [c] } := by
  -- It cannot be declared as a terminal, so it is new exactly when it is no nonterminal yet.
  have hterminal : c ∉ g.terminals := by
    intro hmem
    have hlower := hg.lower c hmem
    rw [isTerminal_eq_false hupper] at hlower
    exact Bool.noConfusion hlower
  simp [Grammar.mention, declares, hterminal, hupper]

/-- A lower-case character that is mentioned is declared as a terminal, unless it is one. -/
theorem WellFormed.mention_of_lower (hg : g.WellFormed) {c : Char} (hlower : isTerminal c = true) :
    g.mention c = if c ∈ g.terminals then g else { g with terminals := g.terminals ++ [c] } := by
  have hupper : isNonterminal c = false := isNonterminal_eq_false hlower
  have hnonterminal : c ∉ g.nonterminals := by
    intro hmem
    rw [hg.upper c hmem] at hupper
    exact Bool.noConfusion hupper
  simp [Grammar.mention, declares, hnonterminal, hupper, hlower]

/-- All other characters may be mentioned without effect. -/
theorem mention_of_caseless {c : Char} (hupper : isNonterminal c = false)
    (hlower : isTerminal c = false) : g.mention c = g := by
  simp [mention, hupper, hlower]

/-- After their first mention all symbols with a case are declared, in order of appearance. -/
theorem WellFormed.foldl_mention (hg : g.WellFormed) (cs : List Char) :
    cs.foldl Grammar.mention g =
      { g with
        nonterminals := (g.nonterminals ++ cs.filter isNonterminal).eraseDups
        terminals := (g.terminals ++ cs.filter isTerminal).eraseDups } := by
  -- By induction on the text, with the declared symbols as what came before it.
  induction cs generalizing g with
  | nil => simp [eraseDups_eq_self hg.nonterminals_nodup, eraseDups_eq_self hg.terminals_nodup]
  | cons c rest ih =>
    rw [List.foldl_cons, ih (hg.mention c)]
    -- The symbol joins one of the two lists by its case, unless it is there already.
    cases hupper : isNonterminal c with
    | true =>
      have hlower : isTerminal c = false := isTerminal_eq_false hupper
      rw [hg.mention_of_upper hupper, List.filter_cons_of_pos hupper,
        List.filter_cons_of_neg (by simp [hlower])]
      split
      next hmem => rw [eraseDups_append_cons_of_mem hmem]
      next => simp
    | false =>
      rw [List.filter_cons_of_neg (by simp [hupper])]
      cases hlower : isTerminal c with
      | true =>
        rw [hg.mention_of_lower hlower, List.filter_cons_of_pos hlower]
        split
        next hmem => rw [eraseDups_append_cons_of_mem hmem]
        next => simp
      | false =>
        rw [mention_of_caseless hupper hlower, List.filter_cons_of_neg (by simp [hlower])]

end Grammar

end CykChart
