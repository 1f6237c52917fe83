import CykChart.Chart.Drawing
import CykChart.Proofs.Cells
import CykChart.Proofs.DotWords
import CykChart.Proofs.Layouts

/-!
# Nodes show cells

Cells do not share the identifiers of their nodes, since the underscore tells the two numbers in an
identifier apart. A label lists the symbols of its cell in a form that is read back, below the
symbol of the word if the cell is that of a single symbol. No symbol has a meaning between quotes,
and a label stands in quotes as it is. The colour tells whether the cell is empty and, for the cell
of the whole word, whether the word is accepted.

## Main definitions

- `Chart.readLabel?`: what a label says.
- `Chart.Shows`: what a node shows of its cell.

## Main results

- `nodeName_inj`: identifiers tell cells apart.
- `Chart.readLabel?_label`: labels are read back.
- `Grammar.WellFormed.shows_cell`: the nodes of filled charts show their cells.
-/

namespace CykChart

open Chart (nodeName)
open Dot (Unescaped)

/-! ## Identifiers -/

/-- The name of a node is made of its two numbers, with an underscore between them. -/
theorem toList_nodeName (offset span : Nat) :
    (nodeName offset span).toList =
      'c' :: (Nat.toDigits 10 offset ++ '_' :: Nat.toDigits 10 span) := by
  simp [nodeName, Nat.repr_eq_ofList_toDigits]

/-- No digit is an underscore. -/
theorem underscore_not_mem_toDigits (n : Nat) : '_' ∉ Nat.toDigits 10 n := by
  intro hmem
  have hdigit := Nat.isDigit_of_mem_toDigits (by decide) (by decide) hmem
  exact absurd hdigit (by decide)

/-- A number is known by its digits. -/
theorem toDigits_injective {m n : Nat} (h : Nat.toDigits 10 m = Nat.toDigits 10 n) : m = n :=
  calc
    m = Nat.ofDigitChars 10 (Nat.toDigits 10 m) 0 := Nat.ofDigitChars_ten_toDigits.symm
    _ = Nat.ofDigitChars 10 (Nat.toDigits 10 n) 0 := by rw [h]
    _ = n := Nat.ofDigitChars_ten_toDigits

/-- Two cells do not share their identifier. -/
theorem nodeName_inj {offset span offset' span' : Nat} :
    nodeName offset span = nodeName offset' span' ↔ offset = offset' ∧ span = span' := by
  constructor
  · intro h
    have hlists := congrArg String.toList h
    rw [toList_nodeName, toList_nodeName] at hlists
    -- Digits contain no underscore, so the name splits at it in one way.
    obtain ⟨hoffset, -, hspan⟩ :=
      (List.append_cons_inj_of_notMem (underscore_not_mem_toDigits _)
        (underscore_not_mem_toDigits _)).1 (List.cons.inj hlists).2
    exact ⟨toDigits_injective hoffset, toDigits_injective hspan⟩
  · rintro ⟨rfl, rfl⟩
    rfl

/-! ## Labels -/

namespace Chart

/-- The symbols before a closing brace, separated by commas. -/
def inBraces? : List Char → Option (List Char)
  | [c, '\x7d'] => some [c]
  | c :: ',' :: rest => (inBraces? rest).map (c :: ·)
  | _ => none

/-- The symbols that a line lists. The sign of the empty set lists none. -/
def listed? : List Char → Option (List Char)
  | ['∅'] => some []
  | '\x7b' :: rest => inBraces? rest
  | _ => none

/-- The symbol on the first of two lines, if there are two, and those that the last line lists. -/
def readLabel? : List Char → Option (Option Char × List Char)
  | c :: '\n' :: rest => (listed? rest).map fun symbols => (some c, symbols)
  | cs => (listed? cs).map fun symbols => (none, symbols)

/-- A symbol before a comma is the first one between the braces. -/
theorem inBraces?_comma (c : Char) (rest : List Char) :
    inBraces? (c :: ',' :: rest) = (inBraces? rest).map (c :: ·) := by
  cases rest <;> rfl

/-- Symbols between braces are read back. -/
theorem inBraces?_intercalate (c : Char) (rest : List Char) :
    inBraces? ([','].intercalate ((c :: rest).map ([·])) ++ ['\x7d']) = some (c :: rest) := by
  induction rest generalizing c with
  | nil => rfl
  | cons d rest ih =>
    -- The first symbol and its comma are read, and the rest is joined in the same way.
    have hjoined : [','].intercalate ((c :: d :: rest).map ([·])) =
        c :: ',' :: [','].intercalate ((d :: rest).map ([·])) := by
      rw [List.map_cons, List.map_cons, List.intercalate_cons_cons]
      rfl
    rw [hjoined, List.cons_append, List.cons_append, inBraces?_comma, ih d]
    rfl

/-- The label of a cell as a list of characters. -/
theorem toList_cellLabel_cons (c : Char) (rest : List Char) :
    (cellLabel (c :: rest)).toList =
      '\x7b' :: ([','].intercalate ((c :: rest).map ([·])) ++ ['\x7d']) := by
  have hsymbols : ((c :: rest).map Char.toString).map String.toList = (c :: rest).map ([·]) := by
    rw [List.map_map]
    exact List.map_congr_left fun c _ => String.toList_singleton c
  unfold cellLabel
  rw [String.toList_append, String.toList_append, String.toList_intercalate, hsymbols]
  rfl

/-- The label of a cell lists its symbols. -/
theorem listed?_cellLabel (symbols : List Char) :
    listed? (cellLabel symbols).toList = some symbols := by
  cases symbols with
  | nil => rfl
  | cons c rest =>
    rw [toList_cellLabel_cons]
    exact inBraces?_intercalate c rest

/-- What stands in the label of a cell. -/
theorem mem_cellLabel {symbols : List Char} {c : Char} (h : c ∈ (cellLabel symbols).toList) :
    c ∈ symbols ∨ c ∈ ['\x7b', ',', '\x7d'] ∨ c = '∅' ∧ symbols = [] := by
  cases symbols with
  | nil => exact .inr (.inr ⟨List.mem_singleton.1 h, rfl⟩)
  | cons d rest =>
    rw [toList_cellLabel_cons, List.mem_cons, List.mem_append] at h
    rcases h with rfl | hjoined | hclose
    · exact .inr (.inl (by decide))
    · rcases eq_or_mem_of_mem_intercalate hjoined with rfl | ⟨part, hpart, hc⟩
      · exact .inr (.inl (by decide))
      · obtain ⟨e, he, rfl⟩ := List.mem_map.1 hpart
        exact .inl (List.mem_singleton.1 hc ▸ he)
    · have hbrace : c = '\x7d' := List.mem_singleton.1 hclose
      exact .inr (.inl (by simp [hbrace]))

variable {chart : Chart} {offset span mask : Nat}

/-- The symbol above a cell in the rank of single symbols. -/
def above? (chart : Chart) (offset span : Nat) : Option Char :=
  if span = 1 then chart.word[offset]? else none

/-- A label has the symbol above the cell, if there is one, on a line of its own. -/
theorem toList_label (chart : Chart) (offset span mask : Nat) :
    (chart.label offset span mask).toList =
      (chart.above? offset span).elim [] ([·, '\n']) ++
        (cellLabel (chart.grammar.symbols mask)).toList := by
  unfold label above?
  by_cases hspan : span = 1
  · subst hspan
    cases chart.word[offset]? with
    | none => rfl
    | some symbol =>
      show (symbol.toString ++ "\n" ++ cellLabel (chart.grammar.symbols mask)).toList = _
      rw [String.toList_append, String.toList_append, Char.toString, String.toList_singleton]
      rfl
  · rw [if_neg hspan]
    split
    next => exact absurd rfl hspan
    next => rfl

/-- What stands in a label. -/
theorem mem_label {c : Char} (h : c ∈ (chart.label offset span mask).toList) :
    c ∈ chart.word ∨ c = '\n' ∨ c ∈ (cellLabel (chart.grammar.symbols mask)).toList := by
  rw [toList_label, above?, List.mem_append] at h
  rcases h with habove | hcell
  · split at habove
    next =>
      cases hsymbol : chart.word[offset]? with
      | none => simp [hsymbol] at habove
      | some symbol =>
        have hpair : c = symbol ∨ c = '\n' := by simpa [hsymbol] using habove
        rcases hpair with rfl | hline
        · exact .inl (List.mem_of_getElem? hsymbol)
        · exact .inr (.inl hline)
    next => exact absurd habove List.not_mem_nil
  · exact .inr (.inr hcell)

/-- A label is read as the symbol above the cell and those in the cell. -/
theorem readLabel?_label (hline : '\n' ∉ chart.grammar.symbols mask) :
    readLabel? (chart.label offset span mask).toList =
      some (chart.above? offset span, chart.grammar.symbols mask) := by
  have hlisted := listed?_cellLabel (chart.grammar.symbols mask)
  rw [toList_label]
  cases chart.above? offset span with
  | some symbol =>
    show (listed? (cellLabel _).toList).map _ = _
    rw [hlisted, Option.map_some]
  | none =>
    show readLabel? (cellLabel _).toList = _
    cases hsymbols : chart.grammar.symbols mask with
    | nil => rfl
    | cons c rest =>
      -- The character after the brace is a symbol, so there is no second line.
      have hc : c ≠ '\n' := fun h => hline (hsymbols ▸ h ▸ List.mem_cons_self)
      rw [hsymbols, toList_cellLabel_cons, List.map_cons, intercalate_cons_eq_flatMap] at hlisted
      rw [toList_cellLabel_cons, List.map_cons, intercalate_cons_eq_flatMap]
      unfold readLabel?
      split
      next heq => exact absurd (List.cons.inj (List.cons.inj heq).2).1 hc
      next => rw [hlisted, Option.map_some]

end Chart

/-! ## Quotes -/

/-- The name of a node needs no escapes. -/
theorem unescaped_nodeName (offset span : Nat) : Unescaped (nodeName offset span) := by
  -- A digit is neither a quote nor a backslash.
  have hdigits : ∀ {n : Nat} {c : Char}, c ∈ Nat.toDigits 10 n → c ≠ '\x22' ∧ c ≠ '\\' := by
    intro n c hc
    have hdigit := Nat.isDigit_of_mem_toDigits (by decide) (by decide) hc
    refine ⟨?_, ?_⟩ <;>
      · rintro rfl
        exact absurd hdigit (by decide)
  refine Dot.unescaped_iff.2 fun c hc => ?_
  rw [toList_nodeName, List.mem_cons, List.mem_append, List.mem_cons] at hc
  rcases hc with rfl | hoffset | rfl | hspan
  · decide
  · exact hdigits hoffset
  · decide
  · exact hdigits hspan

/-- No symbol of a grammar has a meaning between quotes. -/
theorem IsSymbol.unescaped {c : Char} (h : IsSymbol c) : c ≠ '\x22' ∧ c ≠ '\\' :=
  ⟨h.ne (by decide +kernel), h.ne (by decide +kernel)⟩

namespace Chart

variable {chart : Chart} {offset span mask : Nat}

/-- Nor does its label, when words and nonterminals are made of symbols. -/
theorem unescaped_label (hword : ∀ c ∈ chart.word, IsSymbol c)
    (hsymbols : ∀ c ∈ chart.grammar.symbols mask, IsSymbol c) :
    Unescaped (chart.label offset span mask) := by
  -- A label is made of symbols, a line break and the signs of a set.
  have hsigns : ∀ c ∈ ['\x7b', ',', '\x7d'], c ≠ '\x22' ∧ c ≠ '\\' := by simp
  refine Dot.unescaped_iff.2 fun c hc => ?_
  rcases mem_label hc with hletter | rfl | hcell
  · exact (hword c hletter).unescaped
  · decide
  · rcases mem_cellLabel hcell with hsymbol | hsign | ⟨rfl, -⟩
    · exact (hsymbols c hsymbol).unescaped
    · exact hsigns c hsign
    · decide

/-- The label of a cell has a character that no bare word has, so it stands in quotes. -/
theorem word_label (h : Unescaped (chart.label offset span mask)) :
    Dot.word (chart.label offset span mask) =
      "\x22" ++ chart.label offset span mask ++ "\x22" := by
  -- It is the sign of the empty set or the brace before the symbols.
  have hfirst : ∃ c ∈ (cellLabel (chart.grammar.symbols mask)).toList,
      c ≠ '-' ∧ Dot.isBare c = false := by
    cases chart.grammar.symbols mask with
    | nil => exact ⟨'∅', List.mem_singleton_self _, by decide +kernel⟩
    | cons c rest =>
      rw [toList_cellLabel_cons]
      exact ⟨'\x7b', List.mem_cons_self, by decide +kernel⟩
  obtain ⟨c, hc, hdash, hbare⟩ := hfirst
  have hmem : c ∈ (chart.label offset span mask).toList := by
    rw [toList_label]
    exact List.mem_append_right _ hc
  rw [Dot.word_eq_inQuotes hmem hdash hbare, h.inQuotes_eq]

/-- The sign of the empty set is in the labels of empty cells. -/
theorem sign_mem_label_iff (hword : ∀ c ∈ chart.word, IsSymbol c)
    (hsymbols : ∀ c ∈ chart.grammar.symbols mask, IsSymbol c) :
    '∅' ∈ (chart.label offset span mask).toList ↔ chart.grammar.symbols mask = [] := by
  have hsign : ¬ IsSymbol '∅' := by decide +kernel
  constructor
  · intro hmem
    -- The sign is no symbol, so it can only come from an empty cell.
    rcases mem_label hmem with hletter | hline | hcell
    · exact absurd (hword _ hletter) hsign
    · exact absurd hline (by decide)
    · rcases mem_cellLabel hcell with hsymbol | hother | ⟨-, hnil⟩
      · exact absurd (hsymbols _ hsymbol) hsign
      · exact absurd hother (by decide)
      · exact hnil
  · intro hnil
    rw [toList_label, hnil]
    exact List.mem_append_right _ (List.mem_singleton_self _)

/-! ## Colours -/

/-- There are three colours. -/
theorem colour_cases (chart : Chart) (span mask : Nat) :
    chart.colour span mask ∈ ["white", "lightgreen", "lightblue"] := by
  rw [colour]
  split
  · simp
  · split <;> simp

/-- None of them needs escapes. -/
theorem unescaped_colour (chart : Chart) (span mask : Nat) :
    Unescaped (chart.colour span mask) := by
  have hcolours : ∀ text ∈ ["white", "lightgreen", "lightblue"], Unescaped text := by
    decide +kernel
  exact hcolours _ (colour_cases chart span mask)

/-- White nodes are those of empty cells. -/
theorem colour_eq_white_iff : chart.colour span mask = "white" ↔ mask = 0 := by
  rw [colour]
  split
  next hzero => simp [hzero]
  next hne => split <;> simp [hne]

/-- The one green node is that of the whole word, if its cell has the start symbol. -/
theorem colour_eq_lightgreen_iff :
    chart.colour span mask = "lightgreen" ↔
      span = chart.word.length ∧ mask &&& chart.grammar.bit chart.grammar.start ≠ 0 := by
  rw [colour]
  split
  next hzero => simp [hzero]
  next => split <;> simp_all

/-! ## What nodes show -/

/-- What the node of a cell shows. -/
structure Shows (chart : Chart) (offset span : Nat) (cell : List Char) (label colour : String) :
    Prop where
  /-- The symbols of a cell are in ascending order. -/
  ascending : cell.Pairwise (· < ·)
  /-- The label lists them, in the first rank below the symbol of the word. -/
  reads : readLabel? label.toList =
    some (if span = 1 then chart.word[offset]? else none, cell)
  /-- Empty cells have the sign of the empty set. -/
  sign_iff : '∅' ∈ label.toList ↔ cell = []
  /-- The label stands between quotes as it is. -/
  quoted : Dot.word label = "\x22" ++ label ++ "\x22"
  /-- There are three colours. -/
  colour_mem : colour ∈ ["white", "lightgreen", "lightblue"]
  /-- Empty cells are white. -/
  white_iff : colour = "white" ↔ cell = []
  /-- The cell of the whole word is green when the word is accepted. -/
  green_iff : colour = "lightgreen" ↔ span = chart.word.length ∧ chart.accepts = true

end Chart

/-- What a mask reads back as are nonterminals. -/
theorem BitGrammar.mem_of_mem_symbols {g : BitGrammar} {c : Char} {mask : Int}
    (h : c ∈ g.symbols mask) : c ∈ g.nonterminals :=
  (selectBits_sublist _ _).subset h

namespace Grammar.WellFormed

variable {g : Grammar} {word : List Char} {offset span : Nat}

/-- The nonterminals of a well-formed grammar over masks can be symbols. -/
theorem isSymbol_of_mem_bits (hg : g.WellFormed) (start : Char) :
    ∀ c ∈ (g.bits start).nonterminals, IsSymbol c :=
  fun c hc => .inl (hg.upper c (mem_bits_nonterminals.1 hc))

/-- The node of a cell of a filled chart shows the cell. -/
theorem shows_cell (hg : g.WellFormed) (start : Char) (hword : ∀ c ∈ word, c ∈ g.terminals)
    (hspan : 1 ≤ span) (hstretch : offset + span ≤ word.length) :
    ((g.bits start).chart word).Shows offset span
      ((g.bits start).symbols (((g.bits start).chart word).mask offset span))
      (((g.bits start).chart word).label offset span
        (((g.bits start).chart word).mask offset span))
      (((g.bits start).chart word).colour span
        (((g.bits start).chart word).mask offset span)) := by
  have hletters : ∀ c ∈ word, IsSymbol c := fun c hc => .inr (hg.lower c (hword c hc))
  have hsymbols : ∀ c ∈ (g.bits start).symbols (((g.bits start).chart word).mask offset span),
      IsSymbol c := fun c hc => hg.isSymbol_of_mem_bits start c (BitGrammar.mem_of_mem_symbols hc)
  have hempty := hg.symbols_mask_eq_nil_iff start hword hspan hstretch
  have hline : '\n' ∉ (g.bits start).symbols (((g.bits start).chart word).mask offset span) :=
    fun hmem => absurd (hsymbols _ hmem) (by decide +kernel)
  refine
    { ascending := hg.pairwise_symbols start _
      reads := Chart.readLabel?_label hline
      sign_iff := Chart.sign_mem_label_iff hletters hsymbols
      quoted := Chart.word_label (Chart.unescaped_label hletters hsymbols)
      colour_mem := Chart.colour_cases _ _ _
      white_iff := Chart.colour_eq_white_iff.trans hempty.symm
      green_iff := ?_ }
  rw [Chart.colour_eq_lightgreen_iff, Chart.accepts, bne_iff_ne]
  refine and_congr_right fun hwhole => ?_
  -- A stretch as long as the word is the whole word.
  have hwhole : span = word.length := hwhole
  obtain rfl : offset = 0 := by omega
  rw [hwhole]
  rfl

end Grammar.WellFormed

end CykChart
