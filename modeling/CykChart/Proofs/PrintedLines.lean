import CykChart.Proofs.Layouts

/-!
# Printed lines are read back

A printed line holds symbols and a few signs only, so it is one line of its text. It is also one of
the ways to write what it says: symbols stand behind a keyword with blanks between them, and the
rules of a head stand on one line with bars between the bodies.

## Main definitions

- `signs`: the characters of printed lines that are no symbols.
- `Document.keywordLine`, `Document.rulesLine`: the two shapes of printed lines.

## Main results

- `Document.visibleLines_of_printed`: printed lines are the lines of their text.
- `Document.readsAs_nonterminals`, `Document.readsAs_terminals`, `Document.readsAs_start`: printed
  symbols.
- `Document.readsAs_rules`: printed rules.
-/

namespace CykChart

/-! ## Signs -/

/-- The signs in printed rules. -/
def ruleSigns : List Char :=
  [':', '=', '|']

/-- The characters of printed lines that are no symbols: the signs in rules, and those in and behind
keywords. -/
def signs : List Char :=
  ' ' :: '_' :: ruleSigns

/-- The signs in rules are among the signs of printed lines. -/
theorem mem_signs_of_mem_ruleSigns {c : Char} (h : c ∈ ruleSigns) : c ∈ signs :=
  List.mem_cons_of_mem _ (List.mem_cons_of_mem _ h)

/-- A text of symbols and signs has no character that is neither. -/
theorem not_mem_of_printed {cs : List Char} {d : Char} (h : ∀ c ∈ cs, IsSymbol c ∨ c ∈ signs)
    (hd : ¬ IsSymbol d) (hsign : d ∉ signs) : d ∉ cs := by
  intro hmem
  exact (h d hmem).elim hd hsign

namespace Document

/-- A text made of printed lines is cut into these lines. -/
theorem visibleLines_of_printed {lines : List (List Char)}
    (h : ∀ line ∈ lines, ∀ c ∈ line, IsSymbol c ∨ c ∈ signs) :
    visibleLines (lines.flatMap (· ++ ['\n'])) = lines.filterMap visible? := by
  have hlines : ∀ line ∈ lines, '\n' ∉ line := fun line hline =>
    not_mem_of_printed (h line hline) (by decide +kernel) (by decide)
  rw [visibleLines, Text.lines_flatMap_newline hlines, List.filterMap_append]
  exact List.append_nil _

/-! ## Printed symbols -/

/-- Symbols behind a keyword, as they are printed. -/
def keywordLine (keyword : String) (symbols : List Char) : List Char :=
  keyword.toList ++ ' ' :: [' '].intercalate (symbols.map ([·]))

/-- A line of symbols behind a keyword is made of symbols and signs. -/
theorem printed_keywordLine {keyword : String} (hkeyword : keyword ∈ keywords)
    {symbols : List Char} (hsymbols : ∀ c ∈ symbols, IsSymbol c) :
    ∀ c ∈ keywordLine keyword symbols, IsSymbol c ∨ c ∈ signs := by
  -- Keywords are spelled in letters and a colon.
  have hletters : ∀ keyword ∈ keywords,
      keyword.toList.all (fun c => IsSymbol c ∨ c ∈ signs) = true := by
    decide +kernel
  have hspace : ' ' ∈ signs := by decide
  intro c hc
  rcases List.mem_append.1 hc with hword | hrest
  · exact of_decide_eq_true (List.all_eq_true.1 (hletters keyword hkeyword) c hword)
  · rcases List.mem_cons.1 hrest with rfl | hjoined
    · exact .inr hspace
    · rcases eq_or_mem_of_mem_intercalate hjoined with rfl | ⟨part, hpart, hmem⟩
      · exact .inr hspace
      · obtain ⟨symbol, hsymbol, rfl⟩ := List.mem_map.1 hpart
        exact .inl (List.mem_singleton.1 hmem ▸ hsymbols symbol hsymbol)

/-- A symbol alone is a token: it holds no blank and no comment sign. -/
theorem IsToken.singleton {c : Char} (h : IsSymbol c) : IsToken [c] where
  ne_nil := List.cons_ne_nil c []
  not_blank := List.forall_mem_singleton.2 h.not_blank
  not_hash := by simpa using (h.ne (by decide +kernel : ¬ IsSymbol '#')).symm

/-- Between two symbols one space is printed, and that is a gap. -/
theorem isGap_space : Text.IsGap [' '] := by
  decide

/-- Symbols are listed by printing them with blanks between. -/
theorem listed_intercalate {symbols : List Char} (h : ∀ c ∈ symbols, IsSymbol c) :
    Listed ([' '].intercalate (symbols.map ([·]))) (symbols.map ([·])) := by
  induction symbols with
  | nil => exact .nil Text.isGap_nil
  | cons c rest ih =>
    obtain ⟨hc, hrest⟩ := List.forall_mem_cons.1 h
    cases rest with
    | nil => exact .last Text.isGap_nil (.singleton hc)
    | cons d rest => exact .cons Text.isGap_nil (.singleton hc) (by decide) (ih hrest)

/-- The printed line of nonterminals declares each of them. -/
theorem readsAs_nonterminals {symbols : List Char} (hsymbols : ∀ c ∈ symbols, IsSymbol c) :
    ReadsAs (keywordLine "NONTERMINALS:" symbols) (some (.nonterminals (symbols.map ([·])))) :=
  (Layout.nonterminals Text.isGap_nil (.inl rfl)
    ((listed_intercalate hsymbols).gap_append isGap_space)).row.readsAs

/-- The printed line of terminals declares each of them. -/
theorem readsAs_terminals {symbols : List Char} (hsymbols : ∀ c ∈ symbols, IsSymbol c) :
    ReadsAs (keywordLine "TERMINALS:" symbols) (some (.terminals (symbols.map ([·])))) :=
  (Layout.terminals Text.isGap_nil
    ((listed_intercalate hsymbols).gap_append isGap_space)).row.readsAs

/-- The printed line of the start symbol sets it. -/
theorem readsAs_start {symbol : Char} (hsymbol : IsSymbol symbol) :
    ReadsAs (keywordLine "START:" [symbol]) (some (.start [symbol])) := by
  have htoken := IsToken.singleton hsymbol
  have htrim : Text.trim [symbol] = [symbol] := Text.trim_eq_self htoken.not_blank
  exact (Layout.start Text.isGap_nil isGap_space htrim htoken.not_hash Text.isGap_nil).row.readsAs

/-! ## Printed rules -/

/-- The rules of a head, as they are printed. -/
def rulesLine (head : Char) (bodies : List Body) : List Char :=
  [head] ++ [':', ':', '='] ++ ['|'].intercalate (bodies.map Body.symbols)

section Rules

variable {head : Char} {bodies : List Body}

/-- Bodies with bars between them are made of symbols and bars. -/
theorem printed_alternatives (hbodies : ∀ body ∈ bodies, ∀ c ∈ body.symbols, IsSymbol c) :
    ∀ c ∈ ['|'].intercalate (bodies.map Body.symbols), IsSymbol c ∨ c = '|' := by
  intro c hc
  rcases eq_or_mem_of_mem_intercalate hc with hsep | ⟨part, hpart, hmem⟩
  · exact .inr hsep
  · obtain ⟨body, hbody, rfl⟩ := List.mem_map.1 hpart
    exact .inl (hbodies body hbody c hmem)

/-- The line of the rules of a head is made of symbols and the signs in rules. -/
theorem printed_rulesLine (hhead : IsSymbol head)
    (hbodies : ∀ body ∈ bodies, ∀ c ∈ body.symbols, IsSymbol c) :
    ∀ c ∈ rulesLine head bodies, IsSymbol c ∨ c ∈ ruleSigns := by
  intro c hc
  rw [rulesLine, List.mem_append, List.mem_append, List.mem_singleton] at hc
  rcases hc with (rfl | harrow) | halternatives
  · exact .inl hhead
  · have hsigns : [':', ':', '='] ⊆ ruleSigns := by simp [ruleSigns]
    exact .inr (hsigns harrow)
  · rcases printed_alternatives hbodies c halternatives with hsymbol | rfl
    · exact .inl hsymbol
    · exact .inr (by decide)

/-- The printed line of the rules of a head says that these are its rules, in their order. -/
theorem readsAs_rules (hhead : isNonterminal head = true) (hne : bodies ≠ [])
    (hbodies : ∀ body ∈ bodies, ∀ c ∈ body.symbols, IsSymbol c) :
    ReadsAs (rulesLine head bodies) (some (.rules [head] (bodies.map Body.symbols))) := by
  have hparts : ∀ part ∈ bodies.map Body.symbols, ∀ c ∈ part, IsSymbol c :=
    List.forall_mem_map.2 hbodies
  -- No blank is printed between the alternatives.
  have hkept : Text.withoutBlanks (['|'].intercalate (bodies.map Body.symbols)) =
      ['|'].intercalate (bodies.map Body.symbols) := by
    refine List.filter_eq_self.2 fun c hc => ?_
    rcases printed_alternatives hbodies c hc with hsymbol | rfl
    · simp [hsymbol.not_blank]
    · decide
  exact (Layout.rules Text.isGap_nil hhead .plain Text.isGap_nil (by decide) (by simpa using hne)
    hparts hkept).row.readsAs

end Rules

end Document

end CykChart
