import CykChart.Proofs.Encoding
import CykChart.Proofs.Loading
import CykChart.Proofs.TextFormat

/-!
# Files of one grammar

A text that describes a grammar can stand in a file by itself. Loaders and readers of texts go
through the same lines with different things in mind: what a reader takes for a keyword with nothing
behind it, a loader takes for the header of a section. No other line that a reader accepts is a
header, for a header has a colon but no arrow. So a file without such lines holds one grammar, the
one that its text describes, and in a file with such lines every grammar is named after a keyword.

## Main definitions

- `Collection.IsBareKeyword`: lines that are keywords to a reader and headers to a loader.

## Main results

- `Collection.isBareKeyword_of_isHeader`: the headers among the lines of a text that is a grammar.
- `Collection.load_of_accepted`: what is loaded from a file whose text is a grammar.
- `Collection.load_not_single`: a file whose text is a grammar need not load as that grammar.
-/

namespace CykChart

/-- A file with the bytes of a text without carriage returns is read as the text. -/
theorem Disk.readText_eq_ok {disk : Disk} {path : String} {text : List Char}
    (hfile : disk path = .ok (Text.Utf8.encode text)) (hreturn : '\r' ∉ text) :
    disk.readText path = .ok text := by
  rw [Disk.readText, hfile]
  show ((Text.Utf8.decode (Text.Utf8.encode text)).mapError DiskError.undecodable >>= _) = _
  rw [Text.Utf8.decode_encode]
  exact congrArg Except.ok (Text.unixNewlines_eq_self hreturn)

namespace Collection

variable {line name text : List Char} {g : Grammar}

/-! ## Bare keywords -/

/-- A line is a bare keyword when it begins with a keyword and nothing but white space follows. -/
def IsBareKeyword (line : List Char) : Prop :=
  ∃ keyword ∈ Document.keywords, ∃ gap, Text.IsGap gap ∧ line = keyword.toList ++ gap

/-- A bare keyword is the header of a section. -/
theorem IsBareKeyword.isHeader (h : IsBareKeyword line) : ∃ name, IsHeader line name := by
  obtain ⟨keyword, hkeyword, gap, hgap, rfl⟩ := h
  have hnames : ∀ keyword ∈ Document.keywords,
      headerName? keyword.toList = some keyword.toList.dropLast := by
    decide +kernel
  obtain ⟨c, more, blank, hname, hline, hletter, hword, hblank⟩ :=
    headerName?_eq_some_iff.1 (hnames keyword hkeyword)
  refine ⟨_, c, more, blank ++ gap, hname, ?_, hletter, hword, ?_⟩
  -- The keyword is a header by itself, and the white space behind it belongs to the header.
  · conv_lhs => rw [hline]
    simp
  · exact List.forall_mem_append.2 ⟨hblank, hgap⟩

/-! ## Headers that a reader accepts -/

theorem IsHeader.isWordChar (h : IsHeader line name) : ∀ d ∈ name, Text.isWordChar d = true := by
  obtain ⟨c, more, -, rfl, -, hletter, hword, -⟩ := h
  exact List.forall_mem_cons.2 ⟨Text.isWordChar_of_letter hletter, hword⟩

theorem IsHeader.not_mem {c : Char} (h : IsHeader line name) (hc : Text.isWordChar c = false) :
    c ∉ name := fun hmem => Bool.false_ne_true (hc.symm.trans (h.isWordChar c hmem))

/-- Of a header a reader sees the name and the colon. -/
theorem IsHeader.visible?_eq (h : IsHeader line name) :
    Document.visible? line = some (name ++ [':']) := by
  obtain ⟨_, _, blank, -, rfl, -, -, hblank⟩ := id h
  have hhash : '#' ∉ name ++ ':' :: blank := by
    rw [List.mem_append, List.mem_cons, not_or, not_or]
    exact ⟨h.not_mem (by decide +kernel), by decide, Text.IsGap.not_mem hblank (by decide)⟩
  have hkept : (name ++ ':' :: blank).takeWhile (· != '#') = name ++ ':' :: blank :=
    List.takeWhile_eq_self_iff.2 fun c hc => bne_iff_ne.2 fun heq => hhash (heq ▸ hc)
  have hseen : ∀ c ∈ name ++ [':'], Text.isBlank c = false :=
    List.forall_mem_append.2 ⟨fun c hc => Text.isBlank_eq_false (h.isWordChar c hc),
      List.forall_mem_singleton.2 (by decide)⟩
  -- Neither the name nor the colon is white space, so trimming stops at the colon.
  have htrim : Text.trim (name ++ ':' :: blank) = name ++ [':'] := by
    rw [List.append_cons, Text.trim_append_gap hblank, Text.trim_eq_self hseen]
  rw [Document.visible?, hkept, htrim]
  split
  next hnil => exact absurd hnil (List.append_ne_nil_of_right_ne_nil _ (List.cons_ne_nil _ _))
  next => rfl

/-- A header that begins with a keyword of the text format is that keyword and nothing else. -/
theorem IsHeader.keyword_eq (h : IsHeader line name) {keyword : String}
    (hkeyword : keyword ∈ Document.keywords) (hbegins : keyword.toList <+: name ++ [':']) :
    keyword.toList = name ++ [':'] := by
  have hcolon : ∀ keyword ∈ Document.keywords, ':' ∈ keyword.toList := by decide
  -- A keyword within the name would bring its colon with it.
  exact (List.prefix_concat_iff.1 hbegins).resolve_right fun hwithin =>
    h.not_mem isWordChar_colon (hwithin.subset (hcolon keyword hkeyword))

/-- A header that says something is a keyword. -/
theorem IsHeader.exists_keyword (h : IsHeader line name) {said : Document.Line}
    (hsaid : Document.Line.Says (name ++ [':']) said) :
    ∃ keyword ∈ Document.keywords, keyword.toList = name ++ [':'] := by
  cases hsaid with
  | start hline => exact ⟨_, by decide, h.keyword_eq (by decide) ⟨_, hline.symm⟩⟩
  | @nonterminals keyword _ hspelled hline =>
    have hkeyword : keyword ∈ Document.keywords := by
      rcases hspelled with rfl | rfl <;> decide
    exact ⟨keyword, hkeyword, h.keyword_eq hkeyword ⟨_, hline.symm⟩⟩
  | terminals hline => exact ⟨_, by decide, h.keyword_eq (by decide) ⟨_, hline.symm⟩⟩
  | @rules head arrow alternatives _ harrow _ hline =>
    -- Every arrow has a sign that neither the name nor the colon behind it is.
    have hsigns : ∀ arrow ∈ Document.arrows,
        arrow.any (fun c => Text.isWordChar c = false ∧ c ≠ ':') = true := by
      decide +kernel
    obtain ⟨c, hc, hsign⟩ := List.any_eq_true.1 (hsigns arrow harrow)
    obtain ⟨hword, hcolon⟩ := of_decide_eq_true hsign
    have hmem : c ∈ name ++ [':'] := by
      rw [hline, List.append_assoc]
      exact List.mem_append_right _ (List.mem_append_left _ hc)
    rcases List.mem_append.1 hmem with hname | hlast
    · exact absurd hname (h.not_mem hword)
    · exact absurd (List.mem_singleton.1 hlast) hcolon

/-- The headers among the lines of a text that is a grammar are keywords. -/
theorem exists_keyword_of_isHeader (haccepted : Grammar.ofText text = .ok g)
    (hline : line ∈ Text.lines text) (h : IsHeader line name) :
    ∃ keyword ∈ Document.keywords, keyword.toList = name ++ [':'] := by
  obtain ⟨document, hreads, -⟩ := Grammar.ofText_eq_ok_iff_build.1 haccepted
  have hvisible : name ++ [':'] ∈ Document.visibleLines text :=
    List.mem_filterMap.2 ⟨line, hline, h.visible?_eq⟩
  obtain ⟨said, -, hsays⟩ := exists_mem_of_forall₂ hreads hvisible
  exact h.exists_keyword hsays

/-- In an accepted text the only lines that look like headers are keywords with nothing after the
colon. -/
theorem isBareKeyword_of_isHeader (haccepted : Grammar.ofText text = .ok g)
    (hline : line ∈ Text.lines text) (h : IsHeader line name) : IsBareKeyword line := by
  obtain ⟨keyword, hkeyword, hname⟩ := exists_keyword_of_isHeader haccepted hline h
  obtain ⟨_, _, blank, -, heq, -, -, hblank⟩ := h
  exact ⟨keyword, hkeyword, blank, hblank, by rw [heq, hname, ← List.append_cons]⟩

/-! ## What is loaded -/

/-- The line scanner finds no section exactly when no line is a header. -/
theorem gather_snd_eq_nil_iff {ls : List (List Char)} :
    (gather ls).2 = [] ↔ ∀ line ∈ ls, headerName? line = none := by
  induction ls with
  | nil => simp [gather]
  | cons line rest ih =>
    rw [List.forall_mem_cons, ← ih, gather]
    cases headerName? line <;> simp

/-- An accepted text has no section exactly when it has no bare keyword. -/
theorem scan_eq_nil_iff (haccepted : Grammar.ofText text = .ok g) :
    scan text = [] ↔ ∀ line ∈ Text.lines text, ¬ IsBareKeyword line := by
  rw [scan, List.map_eq_nil_iff, gather_snd_eq_nil_iff]
  refine forall₂_congr fun line hline => ?_
  constructor
  · rintro hnone hbare
    obtain ⟨name, hheader⟩ := hbare.isHeader
    rw [headerName?_eq_some_iff.2 hheader] at hnone
    exact absurd hnone (by simp)
  · intro hbare
    -- Any header of an accepted text would be a bare keyword.
    rw [Option.eq_none_iff_forall_ne_some]
    intro name hname
    exact hbare (isBareKeyword_of_isHeader haccepted hline (headerName?_eq_some_iff.1 hname))

/-- The sections of a text that is a grammar are named after keywords. -/
theorem keyword_of_mem_scan (haccepted : Grammar.ofText text = .ok g) {part : Section}
    (hpart : part ∈ scan text) : part.name ++ ":" ∈ Document.keywords := by
  rw [scan, List.mem_map] at hpart
  obtain ⟨⟨name, between⟩, hmem, rfl⟩ := hpart
  obtain ⟨line, hline, hheader⟩ := isHeader_of_mem_gather hmem
  obtain ⟨keyword, hkeyword, hname⟩ := exists_keyword_of_isHeader haccepted hline hheader
  have hsame : String.ofList name ++ ":" = keyword := by
    rw [← String.toList_inj, hname, String.toList_append, String.toList_ofList]
    rfl
  exact hsame ▸ hkeyword

theorem exists_of_mem_loaded {parts : List Section} {entry : String × Grammar}
    (h : entry ∈ loaded parts) : ∃ part ∈ parts, part.name = entry.1 := by
  obtain ⟨part, hpart, hread⟩ := List.mem_filterMap.1 h
  refine ⟨part, hpart, ?_⟩
  split at hread
  next => exact congrArg Prod.fst (Option.some.inj hread)
  next => exact absurd hread (by simp)

/-- From a file without headers whose text is a grammar that grammar is loaded. -/
theorem ofText_of_scan_eq_nil (haccepted : Grammar.ofText text = .ok g) (path : String)
    (hnone : scan text = []) :
    ofText path text =
      { grammars := ⟨[(String.ofList (withoutExtension (lastName path.toList)), g)]⟩ } := by
  rw [ofText, sectionsOfFile_eq, definitions, if_pos hnone, List.foldl_cons, List.foldl_nil,
    Loading.add]
  dsimp only
  rw [haccepted]
  rfl

/-- From a file with headers no grammars are loaded but those of its sections. -/
theorem exists_of_mem_names (path : String) (hsome : scan text ≠ []) {name : String}
    (hname : name ∈ (ofText path text).grammars.names) : ∃ part ∈ scan text, part.name = name := by
  have hnone : (Register.names ({} : Register Grammar)).Nodup := List.nodup_nil
  rw [ofText, sectionsOfFile_eq, definitions, if_neg hsome, foldl_add,
    Register.names_foldl_put hnone, List.mem_eraseDups] at hname
  obtain ⟨entry, hentry, rfl⟩ := List.mem_map.1 hname
  obtain ⟨part, hpart, hsame⟩ := exists_of_mem_loaded hentry
  exact ⟨part, (List.mem_filter.1 hpart).1, hsame⟩

/-- The text of a file is a grammar, so the file as a whole is read as that grammar. If no line is a
bare keyword, loading the file gives that grammar alone, under the stem of the path, and no warning.
Else the file has sections, and whatever is loaded from it is named after a keyword. -/
theorem load_of_accepted {disk : Disk} {path : String} (hreturn : '\r' ∉ text)
    (hfile : disk path = .ok (Text.Utf8.encode text)) (haccepted : Grammar.ofText text = .ok g) :
    ∃ stem loading, IsStem path.toList stem ∧ load disk path = .ok loading ∧
      Grammar.ofFile disk path = .ok g ∧
      ((∀ line ∈ Text.lines text, ¬ IsBareKeyword line) →
        loading.report = "" ∧ loading.grammars.entries = [(String.ofList stem, g)]) ∧
      ((∃ line ∈ Text.lines text, IsBareKeyword line) →
        ∀ name ∈ loading.grammars.names, name ++ ":" ∈ Document.keywords) := by
  have hread := Disk.readText_eq_ok hfile hreturn
  refine ⟨_, ofText path text, isStem_withoutExtension path.toList, ?_, ?_, fun hplain => ?_,
    fun ⟨line, hline, hbare⟩ name hname => ?_⟩
  · rw [load, hread]
    rfl
  -- The file as a whole is its text, whatever its lines look like to a loader.
  · rw [Grammar.ofFile, hread]
    show (Grammar.ofText text).mapError FileError.text = _
    rw [haccepted]
    rfl
  · rw [ofText_of_scan_eq_nil haccepted path ((scan_eq_nil_iff haccepted).2 hplain)]
    exact ⟨rfl, rfl⟩
  · have hsome : scan text ≠ [] := fun hnone =>
      (scan_eq_nil_iff haccepted).1 hnone line hline hbare
    obtain ⟨part, hpart, rfl⟩ := exists_of_mem_names path hsome hname
    exact keyword_of_mem_scan haccepted hpart

/-- A file with symbols behind its keyword and with a comment that looks like a header. -/
theorem load_of_accepted_stem :
    let text := "TERMINALS: ß\nΣ -> ß\n# A:\n".toList
    let g : Grammar := ⟨['Σ'], ['ß'], some 'Σ', [⟨'Σ', .terminal 'ß'⟩]⟩
    let disk : Disk := fun _ => .ok (Text.Utf8.encode text)
    '\r' ∉ text ∧ Grammar.ofText text = .ok g ∧ Grammar.ofFile disk "data/g.v2.txt" = .ok g ∧
      ∃ loading, load disk "data/g.v2.txt" = .ok loading ∧ loading.report = "" ∧
        loading.grammars.entries = [("g.v2", g)] := by
  intro text g disk
  have hreturn : '\r' ∉ text := by decide
  have hfile : disk "data/g.v2.txt" = .ok (Text.Utf8.encode text) := rfl
  have haccepted : Grammar.ofText text = .ok g := toOption_eq_some_iff.1 (by decide +kernel)
  have hplain : ∀ line ∈ Text.lines text, ¬ IsBareKeyword line :=
    (scan_eq_nil_iff haccepted).1 (by decide +kernel)
  have hname : (load disk "data/g.v2.txt").map (·.grammars.names) = .ok ["g.v2"] := by
    decide +kernel
  obtain ⟨stem, loading, -, hload, hread, hsingle, -⟩ := load_of_accepted hreturn hfile haccepted
  obtain ⟨hreport, hentries⟩ := hsingle hplain
  rw [hload] at hname
  have hnames : loading.grammars.entries.map (·.1) = ["g.v2"] := Except.ok.inj hname
  rw [hentries] at hnames
  have hstem : String.ofList stem = "g.v2" := List.head_eq_of_cons_eq hnames
  refine ⟨hreturn, haccepted, hread, loading, hload, hreport, ?_⟩
  rw [hentries, hstem]

/-- A keyword with nothing behind it sets no start symbol, and what stands below it is a section of
the file. A reader has both rules in one grammar; a loader passes the first one over. -/
theorem load_not_single :
    ¬ ∀ (disk : Disk) (path : String) (text : List Char) (g : Grammar), '\r' ∉ text →
      disk path = .ok (Text.Utf8.encode text) → Grammar.ofText text = .ok g →
      ∃ stem loading h, IsStem path.toList stem ∧ load disk path = .ok loading ∧
        loading.report = "" ∧ loading.grammars.entries = [(String.ofList stem, h)] ∧ h.Same g := by
  intro hclaim
  let text := "S -> a\nSTART:\nA -> a\n".toList
  let disk : Disk := fun _ => .ok (Text.Utf8.encode text)
  let g : Grammar := ⟨['S', 'A'], ['a'], some 'S', [⟨'S', .terminal 'a'⟩, ⟨'A', .terminal 'a'⟩]⟩
  have haccepted : Grammar.ofText text = .ok g := toOption_eq_some_iff.1 (by decide +kernel)
  have hloaded : (load disk "g.txt").map (·.grammars.entries) =
      .ok [("START", ⟨['A'], ['a'], some 'A', [⟨'A', .terminal 'a'⟩]⟩)] := by
    decide +kernel
  obtain ⟨stem, loading, h, -, hload, -, hentries, hsame⟩ :=
    hclaim disk "g.txt" text g (by decide) rfl haccepted
  rw [hload] at hloaded
  have hsections := hentries.symm.trans (Except.ok.inj hloaded)
  have hsection := (Prod.mk.inj (List.head_eq_of_cons_eq hsections)).2
  -- The grammar of the section lacks a nonterminal.
  rw [hsection] at hsame
  exact absurd hsame.1 (by decide)

end Collection

end CykChart
