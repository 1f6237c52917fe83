import CykChart.Proofs.Reachability
import CykChart.Proofs.Refusals

/-!
# Bodies given as sequences

The body of a rule may be given as a list or a tuple. Its items have to be texts, and what they
hold is put together before anything else is looked at. So where one text ends and the next one
begins makes no difference: the two symbols of a pair may stand in one text, and empty texts may
stand beside a symbol. As long as the texts among the items hold one character each, a sequence is
accepted exactly when its items are, one by one, the symbols of a body that may be added.

## Main definitions

- `Body.ListedBy`: the items of a sequence are the symbols of a body, one by one.
- `Body.SpelledBy`: the items are texts that hold these symbols together.
- `Grammar.Admits`: a rule may be added.

## Main results

- `Body.listedBy_iff_spelledBy`: when spelling a body is listing its symbols.
- `Grammar.addRule_of_items`: the sequences that are accepted, and what becomes of the others.
- `Grammar.addRule_accepts_unlisted`: one that is accepted although its items are no symbols.
-/

namespace CykChart

/-! ## Items that give a body -/

namespace Body

variable {body : Body} {items : List Datum}

/-- Items are the symbols of a body, one by one. -/
def ListedBy (body : Body) (items : List Datum) : Prop :=
  List.Forall₂ (fun item symbol => item.char? = some symbol) items body.symbols

/-- Items are texts that hold the symbols of a body when they are put together. -/
def SpelledBy (body : Body) (items : List Datum) : Prop :=
  ∃ pieces : List (List Char),
    List.Forall₂ (fun item piece => item.chars? = some piece) items pieces ∧
      pieces.flatten = body.symbols

/-- A terminal is listed by itself alone. -/
theorem listedBy_terminal_iff {symbol : Char} :
    (terminal symbol).ListedBy items ↔ ∃ item, items = [item] ∧ item.char? = some symbol := by
  constructor
  · rintro (_ | ⟨hfirst, (_ | _)⟩)
    exact ⟨_, rfl, hfirst⟩
  · rintro ⟨item, rfl, hitem⟩
    exact .cons hitem .nil

/-- A pair is listed by its two symbols. -/
theorem listedBy_pair_iff {left right : Char} :
    (pair left right).ListedBy items ↔
      ∃ first second, items = [first, second] ∧ first.char? = some left ∧
        second.char? = some right := by
  constructor
  · rintro (_ | ⟨hfirst, (_ | ⟨hsecond, (_ | _)⟩)⟩)
    exact ⟨_, _, rfl, hfirst, hsecond⟩
  · rintro ⟨first, second, rfl, hfirst, hsecond⟩
    exact .cons hfirst (.cons hsecond .nil)

/-- What texts of one character each hold together is what they are one by one. -/
theorem forall₂_char?_of_flatten {pieces : List (List Char)}
    (hpieces : List.Forall₂ (fun item piece => item.chars? = some piece) items pieces)
    (hchars : ∀ item ∈ items, ∃ c, item.char? = some c) :
    List.Forall₂ (fun item symbol => item.char? = some symbol) items pieces.flatten := by
  -- By induction on the items: the piece of each is the one character that the item is.
  induction hpieces with
  | nil => exact .nil
  | @cons item piece rest others hitem _ ih =>
    rw [List.forall_mem_cons] at hchars
    obtain ⟨c, hc⟩ := hchars.1
    obtain rfl : [c] = piece :=
      Option.some.inj ((Datum.char?_eq_some_iff.1 hc).symm.trans hitem)
    exact .cons hc (ih hchars.2)

/-- Symbols that are spelled are listed when every item is one character. -/
theorem listedBy_iff_spelledBy :
    body.ListedBy items ↔ body.SpelledBy items ∧ ∀ item ∈ items, ∃ c, item.char? = some c := by
  constructor
  · intro hlisted
    refine ⟨⟨body.symbols.map ([·]), ?_, ?_⟩, fun item hitem => ?_⟩
    · rw [List.forall₂_map_right_iff]
      exact hlisted.imp fun _ _ => Datum.char?_eq_some_iff.1
    · rw [← List.flatMap_def, List.flatMap_singleton']
    · obtain ⟨symbol, -, hsymbol⟩ := exists_mem_of_forall₂ hlisted hitem
      exact ⟨symbol, hsymbol⟩
  · rintro ⟨⟨pieces, hpieces, hflatten⟩, hchars⟩
    rw [ListedBy, ← hflatten]
    -- Pieces of one character each are the symbols of what they spell.
    exact forall₂_char?_of_flatten hpieces hchars

/-- Every item of a sequence that spells a body is a text. -/
theorem SpelledBy.exists_chars? (h : body.SpelledBy items) {item : Datum} (hitem : item ∈ items) :
    ∃ piece, item.chars? = some piece := by
  obtain ⟨pieces, hpieces, -⟩ := h
  obtain ⟨piece, -, hpiece⟩ := exists_mem_of_forall₂ hpieces hitem
  exact ⟨piece, hpiece⟩

/-- Where the texts hold one character each, spelling a body is listing its symbols. -/
theorem listedBy_iff_of_single
    (hsingle : ∀ item ∈ items, ∀ piece, item.chars? = some piece → piece.length = 1) :
    body.ListedBy items ↔ body.SpelledBy items := by
  rw [listedBy_iff_spelledBy]
  refine and_iff_left_of_imp fun hspelled item hitem => ?_
  obtain ⟨piece, hpiece⟩ := hspelled.exists_chars? hitem
  obtain ⟨c, rfl⟩ := List.length_eq_one_iff.1 (hsingle item hitem piece hpiece)
  exact ⟨c, Datum.char?_eq_some_iff.2 hpiece⟩

end Body

/-- The items of a sequence are put together when all of them are texts. -/
theorem Datum.joined?_eq_some_iff {datum : Datum} {items : List Datum} {body : Body}
    (hdatum : datum = .list items ∨ datum = .tuple items) :
    datum.joined? = some body.symbols ↔ body.SpelledBy items := by
  have hjoined : datum.joined? = (items.mapM Datum.chars?).map List.flatten := by
    rcases hdatum with rfl | rfl <;> rfl
  rw [hjoined, Option.map_eq_some_iff, Body.SpelledBy]
  simp only [mapM_eq_some_iff]

/-! ## Rules that may be added -/

namespace Grammar

variable {g next : Grammar} {head body : Datum} {items : List Datum}

/-- A rule may be added under the head that a datum names: the head is declared, the body is over
declared symbols, and the head does not have it. -/
structure Admits (g : Grammar) (head : Datum) (rule : Rule) : Prop where
  /-- The datum names the head of the rule. -/
  head_eq : head.char? = some rule.head
  /-- The head is a declared nonterminal. -/
  head_mem : rule.head ∈ g.nonterminals
  /-- The body is one declared terminal or two declared nonterminals. -/
  declares_body : g.DeclaresBody rule.body
  /-- The body is not registered for this head. -/
  body_new : rule.body ∉ g.bodies rule.head

/-- A rule is added exactly when it is admitted and its body is spelled by the characters given. -/
theorem addRule_eq_ok_iff_admits :
    g.addRule head body = .ok next ↔
      ∃ rule, g.Admits head rule ∧ body.joined? = some rule.body.symbols ∧
        next = { g with rules := g.rules ++ [rule] } := by
  rw [addRule_eq_ok_iff]
  constructor
  · rintro ⟨c, b, hhead, hmem, hjoined, hdeclared, hnew, rfl⟩
    exact ⟨⟨c, b⟩, ⟨hhead, hmem, hdeclared, mt mem_bodies.1 hnew⟩, hjoined, rfl⟩
  · rintro ⟨rule, hadmits, hjoined, rfl⟩
    exact ⟨rule.head, rule.body, hadmits.head_eq, hadmits.head_mem, hjoined,
      hadmits.declares_body, mt mem_bodies.2 hadmits.body_new, rfl⟩

/-- A rule whose body is given as a sequence is added exactly when the items are texts that spell a
body which may be added. If the texts among the items hold one character each, that is when the
items are the symbols of such a body. A sequence that is not accepted is refused with one of three
faults, and the grammar stays as it is. A call raises this refusal, unless an integer in the head or
among the items has more digits than a limit allows: then it reports the limit. -/
theorem addRule_of_items (hbody : body = .list items ∨ body = .tuple items) :
    (∀ next, g.addRule head body = .ok next ↔
      ∃ rule, g.Admits head rule ∧ rule.body.SpelledBy items ∧
        next = { g with rules := g.rules ++ [rule] }) ∧
      ((∀ item ∈ items, ∀ piece, item.chars? = some piece → piece.length = 1) →
        ((∃ next, g.addRule head body = .ok next) ↔
          ∃ rule, g.Admits head rule ∧ rule.body.ListedBy items)) ∧
      ((∀ next, g.addRule head body ≠ .ok next) →
        ∃ refusal, g.addRule head body = .error refusal ∧
          refusal.kind ∈ [.unknownSymbol, .notNormalForm, .duplicateRule] ∧
          g.perform (.addRule head body) = g ∧
          (∀ limit : DigitLimit, (∀ value ∈ head.numbers ++ body.numbers, limit.Allows value) →
            g.call limit (.addRule head body) = .error (.intended refusal)) ∧
          ∀ digits, (∃ value ∈ head.numbers ++ body.numbers,
              ¬ (DigitLimit.atMost digits).Allows value) →
            g.call (.atMost digits) (.addRule head body) = .error (.tooManyDigits digits)) := by
  -- For items, being joined to a body is spelling it.
  have haccepted : ∀ next, g.addRule head body = .ok next ↔
      ∃ rule, g.Admits head rule ∧ rule.body.SpelledBy items ∧
        next = { g with rules := g.rules ++ [rule] } := by
    intro next
    rw [addRule_eq_ok_iff_admits]
    simp only [Datum.joined?_eq_some_iff hbody]
  refine ⟨haccepted, fun hsingle => ?_, fun hnone => ?_⟩
  · simp only [haccepted, Body.listedBy_iff_of_single hsingle]
    constructor
    · rintro ⟨next, rule, hadmits, hspelled, -⟩
      exact ⟨rule, hadmits, hspelled⟩
    · rintro ⟨rule, hadmits, hspelled⟩
      exact ⟨_, rule, hadmits, hspelled, rfl⟩
  · -- What is not accepted is refused, and a refusal has no effect.
    cases h : g.addRule head body with
    | ok next => exact absurd h (hnone next)
    | error refusal =>
      have happly : g.apply (.addRule head body) = .error refusal := h
      exact ⟨refusal, rfl, (fits_of_addRule_eq_error h).kind_mem, perform_eq_self happly,
        fun _ => call_eq_intended happly, fun _ => call_eq_tooManyDigits happly⟩

/-- A pair that is given in one text is added. Given as two symbols it is a pair that is there
already, and a symbol beside a number is no body. -/
theorem addRule_of_items_joined :
    let g : Grammar :=
      { nonterminals := ['S', 'A'], terminals := ['a'], rules := [⟨'S', .pair 'A' 'A'⟩] }
    g.Reachable ∧
      g.addRule (.text "A") (.list [.text "", .text "SA"]) =
        .ok { g with rules := [⟨'S', .pair 'A' 'A'⟩, ⟨'A', .pair 'S' 'A'⟩] } ∧
      (¬ ∃ next, g.addRule (.text "S") (.tuple [.text "A", .text "A"]) = .ok next) ∧
      g.perform (.addRule (.text "A") (.list [.text "a", .int 1])) = g := by
  intro g
  have hg : g.Reachable := .of_edits
    [.declareNonterminal (.text "S"), .declareNonterminal (.text "A"),
      .declareTerminal (.text "a"), .addRule (.text "S") (.text "AA")]
    (by decide +kernel)
  refine ⟨hg, ?_, ?_, ?_⟩
  · refine ((addRule_of_items (.inl rfl)).1 _).2
      ⟨⟨'A', .pair 'S' 'A'⟩, ⟨by decide, by decide, ⟨by decide, by decide⟩, by decide⟩,
        ⟨[[], ['S', 'A']], ?_, rfl⟩, rfl⟩
    exact .cons (by decide) (.cons (by decide) .nil)
  · rw [(addRule_of_items (.inr rfl)).2.1 (by simp [Datum.chars?])]
    rintro ⟨⟨head, _ | ⟨left, right⟩⟩, hadmits, hlisted⟩
    · obtain ⟨item, hitems, -⟩ := Body.listedBy_terminal_iff.1 hlisted
      exact absurd hitems (by simp)
    · -- The pair that the two symbols list is the one that `S` has.
      obtain ⟨first, second, hitems, hleft, hright⟩ := Body.listedBy_pair_iff.1 hlisted
      obtain ⟨rfl, rfl⟩ : first = .text "A" ∧ second = .text "A" := by simpa [eq_comm] using hitems
      obtain rfl : 'S' = head := Option.some.inj hadmits.head_eq
      obtain rfl : 'A' = left := Option.some.inj hleft
      obtain rfl : 'A' = right := Option.some.inj hright
      exact hadmits.body_new (by decide)
  · have hrefused : ∀ next, g.addRule (.text "A") (.list [.text "a", .int 1]) ≠ .ok next := by
      intro next h
      obtain ⟨rule, -, ⟨pieces, hpieces, -⟩, -⟩ := ((addRule_of_items (.inl rfl)).1 _).1 h
      obtain ⟨piece, -, hpiece⟩ := exists_mem_of_forall₂ hpieces
        (List.mem_cons_of_mem _ List.mem_cons_self)
      exact absurd hpiece (by simp [Datum.chars?])
    obtain ⟨refusal, -, -, hsame, -⟩ := (addRule_of_items (.inl rfl)).2.2 hrefused
    exact hsame

/-- A text of two symbols, as the only item, is not the symbol of a terminal and not two symbols,
but it is accepted. -/
theorem addRule_accepts_unlisted :
    ¬ ∀ (g : Grammar) (head : Datum) (items : List Datum), g.Reachable →
      ((∃ next, g.addRule head (.list items) = .ok next) ↔
        ∃ rule, g.Admits head rule ∧ rule.body.ListedBy items) := by
  intro hclaim
  have hg : Reachable { nonterminals := ['A'] } :=
    .of_edits [.declareNonterminal (.text "A")] (by decide +kernel)
  have haccepted : addRule { nonterminals := ['A'] } (.text "A") (.list [.text "AA"]) =
      .ok { nonterminals := ['A'], rules := [⟨'A', .pair 'A' 'A'⟩] } :=
    toOption_eq_some_iff.1 (by decide +kernel)
  obtain ⟨rule, -, hlisted⟩ := (hclaim _ _ _ hg).1 ⟨_, haccepted⟩
  obtain ⟨-, hchars⟩ := Body.listedBy_iff_spelledBy.1 hlisted
  obtain ⟨c, hc⟩ := hchars _ List.mem_cons_self
  exact absurd hc (by simp [Datum.char?, Datum.chars?])

end Grammar

end CykChart
