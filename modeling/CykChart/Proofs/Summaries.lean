import CykChart.Proofs.RoundTrip
import CykChart.Proofs.Sameness

/-!
# Summaries describe the state

The summary of a grammar holds its whole state. A reader finds the symbols of either kind behind
the colon of their line by their letter case alone, in order of declaration, and the start symbol
likewise, for a dash is no letter. The lines of the rules are lines of a grammar text, so the reader
of such texts takes them apart.

A head without rules has no line, and the rules stand head by head. So the grammar that is read
back has the rules of each head in their order, and two grammars have one summary exactly when they
are the same.

## Main definitions

- `Grammar.summaryLines`: the lines of a summary.
- `Grammar.ofSummary?`: the reader for summaries.

## Main results

- `Document.readsAs_rulesRow`: the reader of grammar texts reads the line of a head.
- `Grammar.WellFormed.ofSummary?_summary`: a summary is read back.
- `Grammar.summary_eq_iff_same`: grammars with one summary are the same.
-/

namespace CykChart

/-- The body that is spelled with the given symbols. -/
def Body.ofSymbols? : List Char → Option Body
  | [symbol] => some (.terminal symbol)
  | [left, right] => some (.pair left right)
  | _ => none

/-- A body is recovered from the characters it is spelled with. -/
@[simp]
theorem Body.ofSymbols?_symbols (body : Body) : Body.ofSymbols? body.symbols = some body := by
  cases body <;> rfl

theorem newline_not_symbol : ¬ IsSymbol '\n' := by
  decide +kernel

/-! ## The line of a head -/

namespace Document

/-- The rules of a head, as a summary has them: an arrow and bars with spaces around them. -/
def rulesRow (head : Char) (bodies : List Body) : List Char :=
  "    ".toList ++ ([head] ++ " ".toList ++ "->".toList ++
    (" ".toList ++ " | ".toList.intercalate (bodies.map Body.symbols)))

variable {head : Char} {bodies : List Body}

/-- The line of a head is one of the ways to write its rules in a grammar text. -/
theorem readsAs_rulesRow (hhead : isNonterminal head = true) (hne : bodies ≠ [])
    (hbodies : ∀ body ∈ bodies, ∀ c ∈ body.symbols, IsSymbol c) :
    ReadsAs (rulesRow head bodies) (some (.rules [head] (bodies.map Body.symbols))) := by
  have hparts : ∀ part ∈ bodies.map Body.symbols, ∀ c ∈ part, IsSymbol c :=
    List.forall_mem_map.2 hbodies
  have hkept : (bodies.map Body.symbols).map Text.withoutBlanks = bodies.map Body.symbols := by
    refine (List.map_congr_left fun part hpart => ?_).trans (List.map_id _)
    exact List.filter_eq_self.2 fun c hc => by simp [(hparts part hpart c hc).not_blank]
  -- Of the bars with spaces around them, the bars are left.
  have halternatives :
      Text.withoutBlanks (" ".toList ++ " | ".toList.intercalate (bodies.map Body.symbols)) =
        ['|'].intercalate (bodies.map Body.symbols) := by
    have hbar : " | ".toList.filter (!Text.isBlank ·) = ['|'] := by decide
    have hspace : " ".toList.filter (!Text.isBlank ·) = [] := by decide
    have hmap : (bodies.map Body.symbols).map (List.filter (!Text.isBlank ·)) =
      bodies.map Body.symbols := hkept
    rw [Text.withoutBlanks, List.filter_append, hspace, List.nil_append, filter_intercalate, hbar,
      hmap]
  exact (Layout.rules (by decide) hhead .plain (by decide) (by decide) (by simpa using hne) hparts
    halternatives).row.readsAs

/-- A row of rules is one line of the summary: no break stands inside it. -/
theorem newline_not_mem_rulesRow (hhead : IsSymbol head)
    (hbodies : ∀ body ∈ bodies, ∀ c ∈ body.symbols, IsSymbol c) :
    '\n' ∉ rulesRow head bodies := by
  have hsymbol : '\n' ≠ head := (hhead.ne newline_not_symbol).symm
  have hjoined : '\n' ∉ " | ".toList.intercalate (bodies.map Body.symbols) := by
    refine not_mem_intercalate (by decide) fun part hpart hmem => ?_
    obtain ⟨body, hbody, rfl⟩ := List.mem_map.1 hpart
    exact newline_not_symbol (hbodies body hbody _ hmem)
  rw [rulesRow]
  simp only [List.mem_append, List.mem_singleton, not_or]
  exact ⟨by decide, ⟨⟨hsymbol, by decide⟩, by decide⟩, by decide, hjoined⟩

end Document

namespace Grammar

variable {g h : Grammar} {head : Char}

/-! ## The lines of a summary -/

/-- The line of a head; none when it has no rules. -/
def summaryRules (g : Grammar) (head : Char) : List (List Char) :=
  if g.bodies head = [] then [] else [Document.rulesRow head (g.bodies head)]

/-- The lines of a summary. -/
def summaryLines (g : Grammar) : List (List Char) :=
  ["Grammar (CNF)".toList,
    "  Non-terminals: ".toList ++ (braced g.nonterminals).toList,
    "  Terminals: ".toList ++ (braced g.terminals).toList,
    "  Start symbol: ".toList ++ [g.start.getD '-'],
    "  Productions:".toList] ++ g.nonterminals.flatMap g.summaryRules

/-- A set in braces, character by character. -/
theorem toList_braced (symbols : List Char) :
    (braced symbols).toList =
      '\x7b' :: (", ".toList.intercalate (symbols.map ([·])) ++ ['\x7d']) := by
  rw [braced, String.toList_append, String.toList_append, String.toList_intercalate,
    map_toList_toString]
  rfl

theorem newline_not_mem_braced {symbols : List Char} (h : ∀ c ∈ symbols, IsSymbol c) :
    '\n' ∉ (braced symbols).toList := by
  have hjoined : '\n' ∉ ", ".toList.intercalate (symbols.map ([·])) := by
    refine not_mem_intercalate (by decide) fun part hpart hmem => ?_
    obtain ⟨symbol, hsymbol, rfl⟩ := List.mem_map.1 hpart
    exact newline_not_symbol (List.mem_singleton.1 hmem ▸ h symbol hsymbol)
  rw [toList_braced, List.mem_cons, List.mem_append, not_or, not_or]
  exact ⟨by decide, hjoined, by decide⟩

/-- What the summary prints for one head is its rows, each ended by a break. -/
theorem toList_summaryLine (g : Grammar) (head : Char) :
    (g.summaryLine head).toList = (g.summaryRules head).flatMap (· ++ ['\n']) := by
  rw [summaryLine, summaryRules]
  split
  next hnil => simp [hnil]
  -- A head with bodies is printed as one row; only where the break stands differs.
  next hne =>
    have hhead : head.toString.toList = [head] := String.toList_singleton head
    have hbodies : ((g.bodies head).map Body.print).map String.toList =
        (g.bodies head).map Body.symbols := by
      simp [Body.print, Function.comp_def]
    have harrow : " -> ".toList = " ".toList ++ ("->".toList ++ " ".toList) := rfl
    have hend : "\n".toList = ['\n'] := rfl
    unfold Document.rulesRow
    simp only [if_neg hne, List.flatMap_singleton, String.toList_append, String.toList_intercalate,
      List.append_assoc]
    rw [hhead, harrow, hbodies, hend, List.append_assoc, List.append_assoc]

/-- A summary is made of its lines. -/
theorem toList_summary (g : Grammar) :
    g.summary.toList = g.summaryLines.flatMap (· ++ ['\n']) := by
  have hrules : (String.join (g.nonterminals.map g.summaryLine)).toList =
      (g.nonterminals.flatMap g.summaryRules).flatMap (· ++ ['\n']) := by
    rw [String.toList_join, List.flatMap_map, List.flatMap_assoc]
    simp only [toList_summaryLine]
  -- The fixed lines of the summary end in a break as the printed rows do.
  have htitle : "Grammar (CNF)\n".toList = "Grammar (CNF)".toList ++ ['\n'] := rfl
  have hheading : "  Productions:\n".toList = "  Productions:".toList ++ ['\n'] := rfl
  have hend : "\n".toList = ['\n'] := rfl
  have hstart : (g.start.getD '-').toString.toList = [g.start.getD '-'] :=
    String.toList_singleton _
  unfold summary summaryLines
  simp only [List.flatMap_append, List.flatMap_cons, List.flatMap_nil, String.toList_append,
    htitle, hheading, hend, hstart, hrules, List.append_assoc, List.append_nil]

/-! ## Reading summaries -/

/-- The symbols of one kind that a line has behind its colon. -/
def symbolsBehind (kind : Char → Bool) (line : List Char) : List Char :=
  (line.dropWhile (· != ':')).filter kind

/-- The rules of the head of a line. -/
def rulesShown (line : List Char) : List Rule :=
  match (Document.visible? line).bind Document.Line.read? with
  | some (.rules [head] bodies) => (bodies.filterMap Body.ofSymbols?).map (Rule.mk head)
  | _ => []

/-- The grammar that a summary describes. -/
def ofSummary? (text : List Char) : Option Grammar :=
  match Text.lines text with
  | _title :: nonterminals :: terminals :: start :: _heading :: rules =>
    some
      { nonterminals := symbolsBehind isNonterminal nonterminals
        terminals := symbolsBehind isTerminal terminals
        start := (symbolsBehind isNonterminal start).head?
        rules := rules.flatMap rulesShown }
  | _ => none

/-- The signs behind the colon of a line of symbols. -/
def summarySigns : List Char :=
  [':', ' ', '\x7b', ',', '\x7d', '-']

section Behind

variable {kind : Char → Bool}

theorem kind_eq_false_of_mem_signs (hsigns : summarySigns.filter kind = []) {c : Char}
    (hc : c ∈ summarySigns) : kind c = false := by
  simpa using List.filter_eq_nil_iff.1 hsigns c hc

/-- A reader that skips the signs of a summary finds the members of a set in braces, in their order.
-/
theorem filter_braced (hsigns : summarySigns.filter kind = []) {symbols : List Char}
    (hkind : ∀ c ∈ symbols, kind c = true) : (braced symbols).toList.filter kind = symbols := by
  have hsign : ∀ {c : Char}, c ∈ summarySigns → kind c = false :=
    kind_eq_false_of_mem_signs hsigns
  -- Braces and separators are dropped, and of the symbols none is.
  have hseparator : ", ".toList.filter kind = [] := by
    show [',', ' '].filter kind = []
    simp [hsign (by decide : ',' ∈ summarySigns), hsign (by decide : ' ' ∈ summarySigns)]
  have hopen : kind '\x7b' = false := hsign (by decide)
  have hclose : ['\x7d'].filter kind = [] := by
    simp [hsign (by decide : '\x7d' ∈ summarySigns)]
  have hflatten : (symbols.map ([·])).flatten = symbols := by simp [← List.flatMap_def]
  rw [toList_braced, List.filter_cons_of_neg (by simp [hopen]), List.filter_append, hclose,
    List.append_nil, filter_intercalate_eq_flatten hseparator, hflatten]
  exact List.filter_eq_self.2 hkind

/-- What a line has behind its label is what it has behind its colon. -/
theorem symbolsBehind_append (hsigns : summarySigns.filter kind = []) {label : String}
    (hlabel : label.toList.dropWhile (· != ':') = [':', ' ']) (shown : List Char) :
    symbolsBehind kind (label.toList ++ shown) = shown.filter kind := by
  have hsign : ∀ {c : Char}, c ∈ summarySigns → kind c = false :=
    kind_eq_false_of_mem_signs hsigns
  have hcolon : kind ':' = false := hsign (by decide)
  have hspace : kind ' ' = false := hsign (by decide)
  rw [symbolsBehind, List.dropWhile_append, hlabel]
  simp [hcolon, hspace]

end Behind

theorem signs_not_nonterminal : summarySigns.filter isNonterminal = [] := by
  decide +kernel

theorem signs_not_terminal : summarySigns.filter isTerminal = [] := by
  decide +kernel

/-- A row that reads as rules shows exactly those rules. -/
theorem rulesShown_of_readsAs {row : List Char} {bodies : List Body}
    (h : Document.ReadsAs row (some (.rules [head] (bodies.map Body.symbols)))) :
    rulesShown row = bodies.map (Rule.mk head) := by
  have hbodies : (bodies.map Body.symbols).filterMap Body.ofSymbols? = bodies := by
    rw [List.filterMap_map]
    simp
  rw [Document.ReadsAs] at h
  generalize hvisible : Document.visible? row = visible at h
  cases h with
  | some hsays =>
    rw [rulesShown, hvisible, Option.bind_some, Document.Line.read?_eq_some_iff.2 hsays]
    exact congrArg (List.map (Rule.mk head)) hbodies

namespace WellFormed

/-- The row printed for a head reads as the rules of that head. -/
theorem readsAs_rulesRow (hg : g.WellFormed) (hhead : head ∈ g.nonterminals)
    (hne : g.bodies head ≠ []) :
    Document.ReadsAs (Document.rulesRow head (g.bodies head))
      (some (.rules [head] ((g.bodies head).map Body.symbols))) :=
  Document.readsAs_rulesRow (hg.upper head hhead) hne fun _ hbody _ =>
    hg.isSymbol_of_mem_body hbody

/-- The lines of the heads show the rules head by head. -/
theorem flatMap_rulesShown (hg : g.WellFormed) :
    (g.nonterminals.flatMap g.summaryRules).flatMap rulesShown = g.rulesByHead := by
  rw [List.flatMap_assoc, rulesByHead]
  refine List.flatMap_congr fun head hhead => ?_
  rw [← map_mk_bodies, summaryRules]
  -- A head without rules has no line and shows none.
  split
  next hnil => rw [hnil]; rfl
  next hne =>
    rw [List.flatMap_singleton]
    exact rulesShown_of_readsAs (hg.readsAs_rulesRow hhead hne)

/-- No line of a summary goes on beyond its end, for no symbol is a line feed. -/
theorem newline_not_mem_summaryLines (hg : g.WellFormed) :
    ∀ line ∈ g.summaryLines, '\n' ∉ line := by
  have hnonterminals := newline_not_mem_braced fun _ => hg.isSymbol_of_nonterminal
  have hterminals := newline_not_mem_braced fun _ => hg.isSymbol_of_terminal
  -- The start symbol is a letter, or the dash that stands for none.
  have hstart : '\n' ∉ [g.start.getD '-'] := by
    rw [List.mem_singleton]
    cases hset : g.start with
    | none => decide
    | some symbol =>
      have hsymbol := hg.isSymbol_of_nonterminal (hg.start_mem symbol hset)
      exact (hsymbol.ne newline_not_symbol).symm
  have hrows : ∀ row ∈ g.nonterminals.flatMap g.summaryRules, '\n' ∉ row := by
    intro row hrow
    obtain ⟨head, hhead, hmem⟩ := List.mem_flatMap.1 hrow
    rw [summaryRules] at hmem
    split at hmem
    next => exact absurd hmem List.not_mem_nil
    next =>
      rw [List.mem_singleton.1 hmem]
      exact Document.newline_not_mem_rulesRow (hg.isSymbol_of_nonterminal hhead)
        fun _ hbody _ => hg.isSymbol_of_mem_body hbody
  rw [summaryLines, List.forall_mem_append]
  refine ⟨?_, hrows⟩
  simp only [List.forall_mem_cons, List.mem_append, not_or]
  exact ⟨by decide, ⟨by decide, hnonterminals⟩, ⟨by decide, hterminals⟩, ⟨by decide, hstart⟩,
    by decide, List.forall_mem_nil _⟩

theorem symbolsBehind_start (hg : g.WellFormed) :
    (symbolsBehind isNonterminal ("  Start symbol: ".toList ++ [g.start.getD '-'])).head? =
      g.start := by
  rw [symbolsBehind_append signs_not_nonterminal (by decide)]
  cases hset : g.start with
  -- A dash is no start symbol.
  | none => decide +kernel
  | some symbol => simp [hg.upper symbol (hg.start_mem symbol hset)]

/-- A summary is read back, with the rules of one head after those of another. -/
theorem ofSummary?_summary (hg : g.WellFormed) :
    ofSummary? g.summary.toList = some { g with rules := g.rulesByHead } := by
  have hnonterminals : symbolsBehind isNonterminal
      ("  Non-terminals: ".toList ++ (braced g.nonterminals).toList) = g.nonterminals := by
    rw [symbolsBehind_append signs_not_nonterminal (by decide),
      filter_braced signs_not_nonterminal hg.upper]
  have hterminals : symbolsBehind isTerminal
      ("  Terminals: ".toList ++ (braced g.terminals).toList) = g.terminals := by
    rw [symbolsBehind_append signs_not_terminal (by decide),
      filter_braced signs_not_terminal hg.lower]
  -- The text ends in a line feed, and the empty line behind it shows no rules.
  have hrules :
      (g.nonterminals.flatMap g.summaryRules ++ [[]]).flatMap rulesShown = g.rulesByHead := by
    rw [List.flatMap_append, hg.flatMap_rulesShown]
    exact List.append_nil _
  rw [toList_summary, ofSummary?, Text.lines_flatMap_newline hg.newline_not_mem_summaryLines,
    summaryLines]
  show some (Grammar.mk (symbolsBehind isNonterminal _) (symbolsBehind isTerminal _)
    (symbolsBehind isNonterminal _).head? _) = _
  rw [hnonterminals, hterminals, hg.symbolsBehind_start]
  exact congrArg (fun rules => some { g with rules }) hrules

end WellFormed

/-- The summary of a reachable grammar holds its whole state, ready or not: the reader for summaries
has from it the symbols of both kinds in their order, the start symbol or none, and for every head
the same bodies in the same order. So two reachable grammars have one summary exactly when they are
the same. -/
theorem summary_eq_iff_same (hg : g.Reachable) (hh : h.Reachable) :
    (g.summary = h.summary ↔ g.Same h) ∧
      ∃ k, ofSummary? g.summary.toList = some k ∧ k.Same g := by
  have hread : ∀ {g : Grammar}, g.Reachable →
      ∃ k, ofSummary? g.summary.toList = some k ∧ k.Same g := by
    intro g hg
    refine ⟨_, hg.wellFormed.ofSummary?_summary, rfl, rfl, rfl, fun head => ?_⟩
    rw [bodies, bodies, hg.wellFormed.filter_rulesByHead]
  refine ⟨⟨fun heq => ?_, Same.summary_eq⟩, hread hg⟩
  obtain ⟨k, hk, hsame⟩ := hread hg
  obtain ⟨l, hl, hother⟩ := hread hh
  -- One text is read as one grammar.
  rw [heq, hl] at hk
  obtain rfl : l = k := Option.some.inj hk
  exact same_equivalence.trans (same_equivalence.symm hsame) hother

/-- Two histories add the rules of different heads in different orders, and no start symbol is set.
The summaries agree, although the grammars do not as lists of rules. -/
theorem summary_eq_iff_same_unordered :
    let g : Grammar :=
      { nonterminals := ['Σ', 'S', 'Ж']
        terminals := ['ß']
        rules := [⟨'S', .pair 'Σ' 'S'⟩, ⟨'Σ', .terminal 'ß'⟩, ⟨'S', .terminal 'ß'⟩] }
    let h : Grammar :=
      { g with rules := [⟨'Σ', .terminal 'ß'⟩, ⟨'S', .pair 'Σ' 'S'⟩, ⟨'S', .terminal 'ß'⟩] }
    g.Reachable ∧ h.Reachable ∧ g ≠ h ∧ g.summary = h.summary ∧
      ∃ k, ofSummary? g.summary.toList = some k ∧ k.Same h := by
  intro g h
  have hg : g.Reachable := .of_edits
    [.declareNonterminal (.text "Σ"), .declareNonterminal (.text "S"),
      .declareNonterminal (.text "Ж"), .declareTerminal (.text "ß"),
      .addRule (.text "S") (.text "ΣS"), .addRule (.text "Σ") (.text "ß"),
      .addRule (.text "S") (.text "ß")]
    (by decide +kernel)
  have hh : h.Reachable := .of_edits
    [.declareNonterminal (.text "Σ"), .declareNonterminal (.text "S"),
      .declareNonterminal (.text "Ж"), .declareTerminal (.text "ß"),
      .addRule (.text "Σ") (.text "ß"), .addRule (.text "S") (.text "ΣS"),
      .addRule (.text "S") (.text "ß")]
    (by decide +kernel)
  have hsame : g.Same h := by decide +kernel
  obtain ⟨hiff, k, hk, hkg⟩ := summary_eq_iff_same hg hh
  exact ⟨hg, hh, by decide, hiff.2 hsame, k, hk, same_equivalence.trans hkg hsame⟩

end Grammar

end CykChart
