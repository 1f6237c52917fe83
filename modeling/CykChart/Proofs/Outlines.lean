import CykChart.Proofs.Layouts

/-!
# What a grammar takes from a document

A grammar takes four things from the lines of a document: the nonterminals and the terminals that
they declare, the start symbol that they set, and the heads with their bodies one by one. These are
the outline of the document. How lines of different kinds stand among each other is not part of it,
nor is how many bodies of a head stand on a line.

The builder does see the lines: on each of them it goes through the head and then through the
bodies, to declare the symbols that are not. A head that is repeated for every body makes no
difference there, since its symbols are settled once it was gone through.

So the many texts that lay out one outline have the same outcome. They may differ in how each line
is written, in comments and blank rows, in the order of lines of different kinds, and in how tokens
and bodies are spread over lines.

## Main definitions

- `Document.Outline`, `Document.outline`: what a grammar takes from a document.
- `Document.LaysOut`: the texts that write an outline.
- `Grammar.Settled`: the symbols of which a mention has no effect.

## Main results

- `Document.build_eq_of_outline_eq`: documents with one outline describe the same grammar, or are
  refused alike.
- `Document.Outline.Writable.exists_laysOut`: outlines of tokens and symbols are laid out by texts.
- `Grammar.ofText_eq_of_laysOut`: texts that lay out one outline have the same outcome.
-/

namespace CykChart

namespace Document

/-- What a grammar takes from a document. -/
structure Outline where
  /-- The nonterminals to declare. -/
  nonterminals : List (List Char)
  /-- The terminals to declare. -/
  terminals : List (List Char)
  /-- The start symbol, if one is set. -/
  start : Option (List Char)
  /-- Heads with their bodies one by one. -/
  rules : List (List Char × List Char)
  deriving DecidableEq, Repr

/-- The outline of a document. A later start symbol takes the place of an earlier one. -/
def outline (document : Document) : Outline where
  nonterminals := document.nonterminals
  terminals := document.terminals
  start := (document.lines.filterMap fun
    | .start symbol => some symbol
    | _ => none).getLast?
  rules := document.alternatives

end Document

/-! ## Symbols that are settled -/

namespace Grammar

variable {g : Grammar} {c : Char}

/-- A symbol is settled when it is declared or cannot be. -/
def Settled (g : Grammar) (c : Char) : Prop :=
  isNonterminal c = true ∨ isTerminal c = true → g.declares c = true

/-- A settled symbol may be mentioned without effect. -/
theorem Settled.mention_eq_self (h : g.Settled c) : g.mention c = g := by
  by_cases hdeclared : g.declares c = true
  · rw [Grammar.mention, if_pos hdeclared]
  · obtain ⟨hupper, hlower⟩ := not_or.1 (mt h hdeclared)
    exact mention_of_caseless (by simpa using hupper) (by simpa using hlower)

/-- A symbol is declared when it is among the nonterminals or the terminals. -/
theorem declares_iff : g.declares c = true ↔ c ∈ g.nonterminals ∨ c ∈ g.terminals := by
  simp [declares]

/-- A mention declares nothing less. -/
theorem declares_mention (h : g.declares c = true) (d : Char) :
    (g.mention d).declares c = true := by
  rw [declares_iff] at h ⊢
  unfold mention
  split_ifs
  · exact h
  · exact h.imp_left (List.mem_append_left [d])
  · exact h.imp_right (List.mem_append_left [d])
  · exact h

/-- A settled symbol stays settled when others are mentioned. -/
theorem Settled.mention (h : g.Settled c) (d : Char) : (g.mention d).Settled c :=
  fun hcase => declares_mention (h hcase) d

/-- A symbol that has been mentioned is settled. -/
theorem settled_mention (g : Grammar) (c : Char) : (g.mention c).Settled c := by
  intro hcase
  by_cases hdeclared : g.declares c = true
  · exact declares_mention hdeclared c
  · rw [declares_iff, Grammar.mention, if_neg hdeclared]
    by_cases hupper : isNonterminal c = true
    · rw [if_pos hupper]
      exact .inl (by simp)
    · rw [if_neg hupper, if_pos (hcase.resolve_left hupper)]
      exact .inr (by simp)

/-- It stays settled while a text is gone through. -/
theorem Settled.foldl_mention (h : g.Settled c) (cs : List Char) :
    (cs.foldl Grammar.mention g).Settled c := by
  induction cs generalizing g with
  | nil => exact h
  | cons d cs ih => exact ih (h.mention d)

/-- What was mentioned is settled. -/
theorem settled_foldl_mention {cs : List Char} (hc : c ∈ cs) (g : Grammar) :
    (cs.foldl Grammar.mention g).Settled c := by
  obtain ⟨before, behind, rfl⟩ := List.append_of_mem hc
  rw [List.foldl_append, List.foldl_cons]
  exact (settled_mention _ c).foldl_mention behind

/-- A text of settled symbols has no effect. -/
theorem foldl_mention_eq_self {cs : List Char} (h : ∀ c ∈ cs, g.Settled c) :
    cs.foldl Grammar.mention g = g := by
  induction cs with
  | nil => rfl
  | cons c cs ih =>
    obtain ⟨hc, hcs⟩ := List.forall_mem_cons.1 h
    rw [List.foldl_cons, hc.mention_eq_self, ih hcs]

/-! ## Heads that are repeated -/

/-- Mentioning a settled head before each body makes no difference. -/
theorem foldl_mention_repeated {head : List Char} (h : ∀ c ∈ head, g.Settled c)
    (bodies : List (List Char)) :
    (bodies.flatMap (head ++ ·)).foldl Grammar.mention g =
      bodies.flatten.foldl Grammar.mention g := by
  induction bodies generalizing g with
  | nil => rfl
  | cons body bodies ih =>
    rw [List.flatMap_cons, List.flatten_cons, List.foldl_append, List.foldl_append,
      List.foldl_append, foldl_mention_eq_self h]
    exact ih fun c hc => (h c hc).foldl_mention body

/-- Going through a head and its bodies is the same as going through the head before each body. -/
theorem foldl_mention_head {head : List Char} {bodies : List (List Char)} (hne : bodies ≠ [])
    (g : Grammar) :
    (head ++ bodies.flatten).foldl Grammar.mention g =
      (bodies.flatMap (head ++ ·)).foldl Grammar.mention g := by
  obtain ⟨body, bodies, rfl⟩ := List.exists_cons_of_ne_nil hne
  -- Once mentioned, the symbols of the head change nothing when they are mentioned again.
  have hsettled : ∀ c ∈ head, ((head ++ body).foldl Grammar.mention g).Settled c :=
    fun c hc => settled_foldl_mention (List.mem_append_left body hc) g
  calc (head ++ (body :: bodies).flatten).foldl Grammar.mention g
      = bodies.flatten.foldl Grammar.mention ((head ++ body).foldl Grammar.mention g) := by
        rw [List.flatten_cons, ← List.append_assoc, List.foldl_append]
    _ = (bodies.flatMap (head ++ ·)).foldl Grammar.mention
          ((head ++ body).foldl Grammar.mention g) :=
        (foldl_mention_repeated hsettled bodies).symm
    _ = ((body :: bodies).flatMap (head ++ ·)).foldl Grammar.mention g := by
        rw [List.flatMap_cons, ← List.foldl_append]

end Grammar

/-! ## Documents with one outline -/

namespace Document

variable {document other : Document}

/-- The symbols that are mentioned depend on the heads with their bodies one by one. -/
theorem foldl_mention_mentions
    (h : ∀ head bodies, (head, bodies) ∈ document.rules → bodies ≠ []) (g : Grammar) :
    document.mentions.foldl Grammar.mention g =
      (document.alternatives.flatMap fun rule => rule.1 ++ rule.2).foldl Grammar.mention g := by
  rw [mentions, alternatives]
  generalize document.rules = rules at h ⊢
  induction rules generalizing g with
  | nil => rfl
  | cons entry rules ih =>
    obtain ⟨head, bodies⟩ := entry
    -- A line with a body mentions its head, so repeating the head for each body adds nothing.
    have hne : bodies ≠ [] := h head bodies List.mem_cons_self
    have hrules : ∀ head bodies, (head, bodies) ∈ rules → bodies ≠ [] :=
      fun head bodies hentry => h head bodies (List.mem_cons_of_mem _ hentry)
    simp only [List.flatMap_cons, List.flatMap_append, List.flatMap_map]
    rw [List.foldl_append, Grammar.foldl_mention_head hne, ih _ hrules, ← List.foldl_append]

/-- The first head with its bodies is the first head with one body. -/
theorem map_fst_head?_rules
    (h : ∀ head bodies, (head, bodies) ∈ document.rules → bodies ≠ []) :
    document.rules.head?.map (·.1) = document.alternatives.head?.map (·.1) := by
  rw [alternatives]
  cases hrules : document.rules with
  | nil => rfl
  | cons entry rules =>
    obtain ⟨head, bodies⟩ := entry
    have hne : bodies ≠ [] := h head bodies (hrules ▸ List.mem_cons_self)
    obtain ⟨body, bodies, rfl⟩ := List.exists_cons_of_ne_nil hne
    simp

/-- Documents with one outline describe the same grammar, or are refused with the same error. -/
theorem build_eq_of_outline_eq (houtline : document.outline = other.outline)
    (hbodies : ∀ head bodies, (head, bodies) ∈ document.rules → bodies ≠ [])
    (hother : ∀ head bodies, (head, bodies) ∈ other.rules → bodies ≠ []) :
    document.build = other.build := by
  -- What is built depends on four parts of a document, each of which the outline determines.
  have hdeclarations : document.declarations = other.declarations := by
    have hnonterminals : document.nonterminals = other.nonterminals :=
      congrArg Outline.nonterminals houtline
    have hterminals : document.terminals = other.terminals := congrArg Outline.terminals houtline
    rw [declarations, hnonterminals, hterminals, declarations]
  have halternatives : document.alternatives = other.alternatives :=
    congrArg Outline.rules houtline
  have hmentions : ∀ g, document.mentions.foldl Grammar.mention g =
      other.mentions.foldl Grammar.mention g := by
    intro g
    rw [foldl_mention_mentions hbodies, foldl_mention_mentions hother, halternatives]
  have hstartFor : ∀ g, document.startFor? g = other.startFor? g := by
    intro g
    have hstart : document.start = other.start :=
      congrArg (fun outline => outline.start.getD []) houtline
    rw [startFor?, startFor?, map_fst_head?_rules hbodies, map_fst_head?_rules hother,
      halternatives, hstart]
  have hadditions : document.additions = other.additions := by
    rw [additions_eq, additions_eq, halternatives]
  simp only [build, hdeclarations, hmentions, hstartFor, hadditions]

/-! ## Texts with one outline -/

variable {text : List Char} {bodies : List (List Char)} {outline : Outline}

/-- A text lays out an outline when its rows write lines with this outline. -/
def LaysOut (text : List Char) (outline : Outline) : Prop :=
  ∃ said, List.Forall₂ Row (Text.lines text) said ∧
    Document.outline ⟨said.filterMap id⟩ = outline

/-! ## Outlines that can be laid out -/

/-- An outline is writable when it holds what texts can say: tokens, a start symbol on one line, and
symbols. -/
structure Outline.Writable (outline : Outline) : Prop where
  nonterminals_tokens : ∀ token ∈ outline.nonterminals, IsToken token
  terminals_tokens : ∀ token ∈ outline.terminals, IsToken token
  start_trimmed : ∀ value, outline.start = some value →
    Text.trim value = value ∧ '#' ∉ value ∧ '\n' ∉ value
  rules_symbols : ∀ rule ∈ outline.rules,
    (∃ head, rule.1 = [head] ∧ isNonterminal head = true) ∧ ∀ c ∈ rule.2, IsSymbol c

/-- A line for each token, for the start symbol and for each rule. -/
def Outline.lines (outline : Outline) : List Line :=
  outline.nonterminals.map (fun token => .nonterminals [token])
    ++ outline.terminals.map (fun token => .terminals [token])
    ++ outline.start.toList.map .start
    ++ outline.rules.map fun rule => .rules rule.1 [rule.2]

/-- The lines that are made for an outline have this outline. -/
theorem outline_lines (outline : Outline) : Document.outline ⟨outline.lines⟩ = outline := by
  obtain ⟨upper, lower, start, rules⟩ := outline
  have hnone : ∀ {α : Type} (as : List α), as.flatMap (fun _ => ([] : List (List Char))) = [] :=
    fun as => List.flatMap_eq_nil_iff.2 fun _ _ => rfl
  rw [Document.outline, Outline.mk.injEq]
  refine ⟨?_, ?_, ?_, ?_⟩
  · simp [Document.nonterminals, Outline.lines, List.flatMap_map]
  · simp [Document.terminals, Outline.lines, List.flatMap_map, hnone]
  · cases start <;> simp [Outline.lines, List.filterMap_map]
  · simp [Document.alternatives, Document.rules, Outline.lines, List.filterMap_map,
      List.flatMap_map]

/-- A token is on one line. -/
theorem IsToken.not_newline {token : List Char} (h : IsToken token) : '\n' ∉ token :=
  fun hmem => Bool.false_ne_true ((h.not_blank _ hmem).symm.trans (by decide))

/-- Each line of a writable outline can be laid out on one line. -/
theorem Outline.Writable.exists_layout (h : outline.Writable) {line : Line}
    (hline : line ∈ outline.lines) : ∃ content, Layout content line ∧ '\n' ∉ content := by
  simp only [Outline.lines, List.mem_append, List.mem_map, Option.mem_toList] at hline
  obtain ((⟨token, hmem, rfl⟩ | ⟨token, hmem, rfl⟩) | ⟨value, hvalue, rfl⟩) |
    ⟨⟨_, body⟩, hrule, rfl⟩ := hline
  -- Each line is laid out with no space that is not needed.
  · have htoken := h.nonterminals_tokens token hmem
    refine ⟨_, .nonterminals Text.isGap_nil (.inl rfl) (.last Text.isGap_nil htoken), ?_⟩
    simpa using htoken.not_newline
  · have htoken := h.terminals_tokens token hmem
    refine ⟨_, .terminals Text.isGap_nil (.last Text.isGap_nil htoken), ?_⟩
    simpa using htoken.not_newline
  · obtain ⟨htrim, hhash, hnewline⟩ := h.start_trimmed value hvalue
    refine ⟨_, .start Text.isGap_nil Text.isGap_nil htrim hhash Text.isGap_nil, ?_⟩
    simpa using hnewline
  · obtain ⟨⟨head, rfl, hhead⟩, hbody⟩ := h.rules_symbols _ hrule
    have hnewline : ¬ IsSymbol '\n' := by decide +kernel
    have hkept : Text.withoutBlanks body = ['|'].intercalate [body] := by
      rw [List.intercalate_singleton]
      exact List.filter_eq_self.2 fun c hc => by simp [(hbody c hc).not_blank]
    refine ⟨_, .rules Text.isGap_nil hhead .plain Text.isGap_nil List.mem_cons_self
      (List.cons_ne_nil _ _) (by simpa using hbody) hkept, ?_⟩
    have hhead' : '\n' ≠ head := fun heq => hnewline (heq ▸ .inl hhead)
    simpa [hhead'] using fun hmem => hnewline (hbody _ hmem)

/-- Lines that can be laid out are rows of a text. -/
theorem exists_rows {lines : List Line}
    (h : ∀ line ∈ lines, ∃ content, Layout content line ∧ '\n' ∉ content) :
    ∃ rows, List.Forall₂ Row rows (lines.map some) ∧ ∀ row ∈ rows, '\n' ∉ row := by
  induction lines with
  | nil => exact ⟨[], .nil, List.forall_mem_nil _⟩
  | cons line lines ih =>
    rw [List.forall_mem_cons] at h
    obtain ⟨⟨content, hlayout, hnewline⟩, hlines⟩ := h
    obtain ⟨rows, hrows, hnewlines⟩ := ih hlines
    exact ⟨content :: rows, .cons hlayout.row hrows,
      List.forall_mem_cons.2 ⟨hnewline, hnewlines⟩⟩

/-- Every writable outline is laid out by some text. -/
theorem Outline.Writable.exists_laysOut (h : outline.Writable) : ∃ text, LaysOut text outline := by
  obtain ⟨rows, hrows, hnewlines⟩ := exists_rows fun line => h.exists_layout
  refine ⟨rows.flatMap (· ++ ['\n']), outline.lines.map some ++ [none], ?_, ?_⟩
  · rw [Text.lines_flatMap_newline hnewlines]
    exact List.rel_append hrows (.cons (.blank Text.isGap_nil .none) .nil)
  · rw [List.filterMap_append, List.filterMap_map]
    simpa using outline_lines outline

/-! ## Outcomes -/

/-- A text that lays out an outline is read as a document with this outline. -/
theorem LaysOut.exists_document (h : LaysOut text outline) :
    ∃ document : Document, document.Reads text ∧ document.outline = outline := by
  obtain ⟨said, hrows, houtline⟩ := h
  exact ⟨_, forall₂_says_of_readsAs (hrows.imp fun _ _ hrow => hrow.readsAs), houtline⟩

/-- The lines that are made for an outline have at least one body for each head. -/
theorem bodies_ne_nil_of_mem_lines {head : List Char}
    (h : (head, bodies) ∈ Document.rules ⟨outline.lines⟩) : bodies ≠ [] := by
  rw [mem_rules] at h
  simp only [Outline.lines, List.mem_append, List.mem_map, reduceCtorEq, and_false, exists_false,
    false_or, Line.rules.injEq] at h
  obtain ⟨rule, -, -, rfl⟩ := h
  exact List.cons_ne_nil _ _

/-- A text that lays out an outline describes what the lines of the outline do. -/
theorem LaysOut.ofText_eq (h : LaysOut text outline) :
    Grammar.ofText text = Document.build ⟨outline.lines⟩ := by
  obtain ⟨document, hreads, houtline⟩ := h.exists_document
  have hbuild : document.build = Document.build ⟨outline.lines⟩ :=
    build_eq_of_outline_eq (houtline.trans (outline_lines outline).symm) hreads.bodies_ne_nil
      fun head bodies => bodies_ne_nil_of_mem_lines
  rw [Grammar.ofText, read_eq_ok_iff.2 hreads, ← hbuild]
  rfl

end Document

/-- Every outline of tokens, a start symbol and rules over symbols is laid out by some text. All
texts that lay out one outline describe the same grammar or are refused with the same error, namely
as a document is that has one line for each entry of the outline. -/
theorem Grammar.ofText_eq_of_laysOut (outline : Document.Outline) :
    (outline.Writable → ∃ text, Document.LaysOut text outline) ∧
      (∀ text, Document.LaysOut text outline →
        Grammar.ofText text = Document.build ⟨outline.lines⟩) ∧
      ∀ text other, Document.LaysOut text outline → Document.LaysOut other outline →
        Grammar.ofText text = Grammar.ofText other := by
  refine ⟨fun hwritable => hwritable.exists_laysOut, fun text h => h.ofText_eq, ?_⟩
  intro text other h hother
  exact h.ofText_eq.trans hother.ofText_eq.symm

/-- Two texts of the same rules that have no row in common. -/
theorem Grammar.ofText_eq_of_laysOut_apart :
    let first := "NONTERMINALS: S\nS -> a | SS".toList
    let second := "S\t::=a\r\n# pairs\n<S> → S\u2003S\nNON_TERMINALS:S # one".toList
    let outline : Document.Outline :=
      { nonterminals := [['S']], terminals := [], start := none
        rules := [(['S'], ['a']), (['S'], ['S', 'S'])] }
    Document.LaysOut first outline ∧ Document.LaysOut second outline ∧
      Grammar.ofText first = Grammar.ofText second := by
  intro first second outline
  have hupper : isNonterminal 'S' = true := by decide +kernel
  have htoken : Document.IsToken ['S'] :=
    ⟨List.cons_ne_nil _ _, List.forall_mem_singleton.2 (by decide), by decide⟩
  have hbodies : ∀ body ∈ [['a'], ['S', 'S']], ∀ c ∈ body, IsSymbol c := by
    have hlower : IsSymbol 'a' := .inr (by decide +kernel)
    have hletter : IsSymbol 'S' := .inl hupper
    simp [hlower, hletter]
  have hfirst : Document.LaysOut first outline := by
    refine ⟨[some (.nonterminals [['S']]), some (.rules ['S'] [['a'], ['S', 'S']])], ?_, rfl⟩
    have hlines : Text.lines first =
        [[] ++ ("NONTERMINALS:".toList ++ ([' '] ++ ['S'])) ++ [],
          [] ++ (['S'] ++ [' '] ++ ['-', '>'] ++ " a | SS".toList) ++ []] := by
      decide +kernel
    rw [hlines]
    refine .cons (.line (.nonterminals nofun (.inl rfl) (.last (by decide) htoken)) .none) <|
      .cons (.line (.rules nofun hupper .plain (by decide) (by decide) (by decide) hbodies ?_)
        .none) .nil
    decide +kernel
  have hsecond : Document.LaysOut second outline := by
    refine ⟨[some (.rules ['S'] [['a']]), none, some (.rules ['S'] [['S', 'S']]),
      some (.nonterminals [['S']])], ?_, rfl⟩
    have hlines : Text.lines second =
        [[] ++ (['S'] ++ ['\t'] ++ [':', ':', '='] ++ ['a', '\r']) ++ [],
          [] ++ "# pairs".toList,
          [] ++ (['<', 'S', '>'] ++ [' '] ++ ['→'] ++ " S\u2003S".toList) ++ [],
          [] ++ ("NON_TERMINALS:".toList ++ ([] ++ (['S'] ++ ' ' :: []))) ++ "# one".toList] := by
      decide +kernel
    rw [hlines]
    have hsingle : ∀ body ∈ [['a']], ∀ c ∈ body, IsSymbol c :=
      fun body hbody => hbodies body (List.mem_cons.2 (.inl (List.mem_singleton.1 hbody)))
    have hpair : ∀ body ∈ [['S', 'S']], ∀ c ∈ body, IsSymbol c :=
      fun body hbody => hbodies body (List.mem_cons_of_mem _ hbody)
    refine .cons (.line (.rules nofun hupper .plain (by decide) (by decide) (by decide) hsingle ?_)
        .none) <|
      .cons (.blank nofun (.hash _)) <|
      .cons (.line (.rules nofun hupper .bracketed (by decide) (by decide) (by decide) hpair ?_)
        .none) <|
      .cons (.line (.nonterminals nofun (.inr rfl) (.cons nofun htoken (by decide) (.nil nofun)))
        (.hash _)) .nil
    all_goals decide +kernel
  obtain ⟨-, -, hsame⟩ := Grammar.ofText_eq_of_laysOut outline
  exact ⟨hfirst, hsecond, hsame first second hfirst hsecond⟩

end CykChart
