import CykChart.Proofs.Pieces
import CykChart.Proofs.TextFormat

/-!
# Layouts of lines

A line can be written in many ways. It may stand between white space, and so may what it consists
of; rules are written with any of the arrows and with or without brackets around the head. The row
that holds it may end in a comment. A row may also hold nothing.

None of this is seen when a text is read: each row is read as what it was meant to say.

## Main definitions

- `IsSymbol`: the characters of bodies.
- `Document.Listed`, `Document.Layout`, `Document.Row`: the ways to write tokens, lines and rows.
- `Document.ReadsAs`: what a row says when it is read.

## Main results

- `Document.Layout.seen`: a line is seen between the white space around it.
- `Document.Row.readsAs`: a row is read as what it was meant to say.
-/

namespace CykChart

/-! ## Symbols -/

/-- Whether a character can be a symbol of a grammar. -/
def IsSymbol (c : Char) : Prop :=
  isNonterminal c = true ∨ isTerminal c = true

/-- Whether a character can be a symbol is decided by its letter case. -/
instance (c : Char) : Decidable (IsSymbol c) :=
  inferInstanceAs (Decidable (_ ∨ _))

/-- A symbol differs from every character that is none. -/
theorem IsSymbol.ne {c d : Char} (hc : IsSymbol c) (hd : ¬ IsSymbol d) : c ≠ d := by
  rintro rfl
  exact hd hc

/-- No symbol is white space. -/
theorem IsSymbol.not_blank {c : Char} (h : IsSymbol c) : Text.isBlank c = false := by
  have hblanks : Text.blanks.ascending = true := by decide +kernel
  rcases h with hupper | hlower
  · have hascending : Text.uppercase.ascending = true := by decide +kernel
    have hapart : Text.uppercase.apart Text.blanks = true := by decide +kernel
    exact Text.CharSet.has_eq_false_of_apart hascending hblanks hapart hupper
  · have hascending : Text.lowercase.ascending = true := by decide +kernel
    have hapart : Text.lowercase.apart Text.blanks = true := by decide +kernel
    exact Text.CharSet.has_eq_false_of_apart hascending hblanks hapart hlower

namespace Document

open Text (IsGap)

variable {names content comment alternatives : List Char} {tokens bodies : List (List Char)}
  {said : Line}

/-! ## Layouts -/

/-- A token is a text without white space that begins no comment. -/
structure IsToken (token : List Char) : Prop where
  ne_nil : token ≠ []
  not_blank : ∀ c ∈ token, Text.isBlank c = false
  not_hash : '#' ∉ token

/-- A text lists tokens when it holds them in order, with white space between them. -/
inductive Listed : List Char → List (List Char) → Prop where
  | nil {gap : List Char} (hgap : IsGap gap) : Listed gap []
  | last {gap token : List Char} (hgap : IsGap gap) (htoken : IsToken token) :
      Listed (gap ++ token) [token]
  | cons {gap token rest : List Char} {blank : Char} {tokens : List (List Char)}
      (hgap : IsGap gap) (htoken : IsToken token) (hblank : Text.isBlank blank = true)
      (hrest : Listed rest tokens) : Listed (gap ++ (token ++ blank :: rest)) (token :: tokens)

/-- A head is written as it is or in brackets. -/
inductive WrittenHead (head : Char) : List Char → Prop where
  | plain : WrittenHead head [head]
  | bracketed : WrittenHead head ['<', head, '>']

/-- The ways to write a line. -/
inductive Layout : List Char → Line → Prop where
  /-- The start symbol may be any text without white space at its ends. -/
  | start {before gap value behind : List Char} (hbefore : IsGap before) (hgap : IsGap gap)
      (hvalue : Text.trim value = value) (hhash : '#' ∉ value) (hbehind : IsGap behind) :
      Layout (before ++ ("START:".toList ++ (gap ++ value ++ behind))) (.start value)
  /-- Nonterminals stand behind either keyword. -/
  | nonterminals {before names : List Char} {keyword : String} {tokens : List (List Char)}
      (hbefore : IsGap before) (hkeyword : keyword = "NONTERMINALS:" ∨ keyword = "NON_TERMINALS:")
      (hnames : Listed names tokens) :
      Layout (before ++ (keyword.toList ++ names)) (.nonterminals tokens)
  /-- Terminals stand behind a keyword. -/
  | terminals {before names : List Char} {tokens : List (List Char)} (hbefore : IsGap before)
      (hnames : Listed names tokens) :
      Layout (before ++ ("TERMINALS:".toList ++ names)) (.terminals tokens)
  /-- Bodies stand behind an arrow with bars between them. White space may stand anywhere behind the
  arrow. -/
  | rules {before written gap arrow alternatives : List Char} {head : Char}
      {bodies : List (List Char)} (hbefore : IsGap before) (hhead : isNonterminal head = true)
      (hwritten : WrittenHead head written) (hgap : IsGap gap) (harrow : arrow ∈ arrows)
      (hne : bodies ≠ []) (hbodies : ∀ body ∈ bodies, ∀ c ∈ body, IsSymbol c)
      (halternatives : Text.withoutBlanks alternatives = ['|'].intercalate bodies) :
      Layout (before ++ (written ++ gap ++ arrow ++ alternatives)) (.rules [head] bodies)

/-- A comment is empty or begins with its sign. -/
inductive Comment : List Char → Prop where
  | none : Comment []
  | hash (remark : List Char) : Comment ('#' :: remark)

/-- The ways to write a row: a line or white space, and then a comment. -/
inductive Row : List Char → Option Line → Prop where
  | line {content comment : List Char} {said : Line} (hlayout : Layout content said)
      (hcomment : Comment comment) : Row (content ++ comment) (some said)
  | blank {gap comment : List Char} (hgap : IsGap gap) (hcomment : Comment comment) :
      Row (gap ++ comment) none

/-! ## Tokens -/

/-- The sign of a comment is no white space, so trimming leaves it. -/
theorem isBlank_hash : Text.isBlank '#' = false := by
  decide

/-- A list of names has no comment in it. -/
theorem Listed.not_hash (h : Listed names tokens) : '#' ∉ names := by
  induction h with
  | nil hgap => exact hgap.not_mem isBlank_hash
  | last hgap htoken =>
    rw [List.mem_append, not_or]
    exact ⟨hgap.not_mem isBlank_hash, htoken.not_hash⟩
  | @cons gap token rest blank tokens hgap htoken hblank hrest ih =>
    have hne : '#' ≠ blank := by
      rintro rfl
      exact Bool.false_ne_true (isBlank_hash.symm.trans hblank)
    rw [List.mem_append, List.mem_append, List.mem_cons, not_or, not_or, not_or]
    exact ⟨hgap.not_mem isBlank_hash, htoken.not_hash, hne, ih⟩

/-- A list of names may begin behind a gap. -/
theorem Listed.gap_append {gap : List Char} (hgap : IsGap gap) (h : Listed names tokens) :
    Listed (gap ++ names) tokens := by
  have hjoined : ∀ {more : List Char}, IsGap more → IsGap (gap ++ more) := fun hmore =>
    List.forall_mem_append.2 ⟨hgap, hmore⟩
  cases h with
  | nil hmore => exact .nil (hjoined hmore)
  | last hmore htoken =>
    rw [← List.append_assoc]
    exact .last (hjoined hmore) htoken
  | cons hmore htoken hblank hrest =>
    rw [← List.append_assoc]
    exact .cons (hjoined hmore) htoken hblank hrest

/-- The words of a list of tokens are the tokens. -/
theorem Listed.words_eq (h : Listed names tokens) : Text.words names = tokens := by
  induction h with
  | nil hgap => exact Text.words_append_gap hgap []
  | last hgap htoken =>
    rw [Text.words_gap_append hgap, Text.words_eq_singleton htoken.ne_nil htoken.not_blank]
  | cons hgap htoken hblank hrest ih =>
    rw [Text.words_gap_append hgap, Text.words_append_cons hblank, ih,
      Text.words_eq_singleton htoken.ne_nil htoken.not_blank, List.singleton_append]

/-! ## Lines with a keyword -/

/-- Keywords have no comment sign in them. -/
theorem not_hash_of_mem_keywords {keyword : String} (h : keyword ∈ keywords) :
    '#' ∉ keyword.toList := by
  have hkeywords : ∀ keyword ∈ keywords, '#' ∉ keyword.toList := by decide
  exact hkeywords keyword h

/-- In front of a keyword and behind it white space is taken off. -/
theorem trim_keyword {before : List Char} {keyword : String} (hbefore : IsGap before)
    (hkeyword : keyword ∈ keywords) (behind : List Char) :
    Text.trim (before ++ (keyword.toList ++ behind)) = keyword.toList ++ Text.trimEnd behind := by
  have hends : ∀ keyword ∈ keywords, keyword.toList ≠ [] ∧
      keyword.toList.head?.all (!Text.isBlank ·) = true ∧
      keyword.toList.getLast?.all (!Text.isBlank ·) = true := by
    decide +kernel
  obtain ⟨hne, hfirst, hlast⟩ := hends keyword hkeyword
  refine Text.trim_gap_append hbefore hne (fun c hc => ?_) (fun c hc => ?_) behind
  · simpa [hc] using hfirst
  · simpa [hc] using hlast

/-! ## Lines with rules -/

/-- Only the two other arrows are replaced by the plain one. -/
theorem plainArrows_eq_self {cs : List Char} (hsingle : '→' ∉ cs) (hcolon : ':' ∉ cs) :
    plainArrows cs = cs := by
  fun_induction plainArrows cs <;> simp_all

section Rules

variable {head : Char} {written : List Char}

/-- Alternatives are written with blanks, symbols and bars. -/
theorem blank_or_symbol_or_bar
    (halternatives : Text.withoutBlanks alternatives = ['|'].intercalate bodies)
    (hbodies : ∀ body ∈ bodies, ∀ c ∈ body, IsSymbol c) {c : Char} (hc : c ∈ alternatives) :
    Text.isBlank c = true ∨ IsSymbol c ∨ c = '|' := by
  cases hblank : Text.isBlank c with
  | true => exact .inl rfl
  | false =>
    have hkept : c ∈ Text.withoutBlanks alternatives :=
      List.mem_filter.2 ⟨hc, by simp [hblank]⟩
    rw [halternatives] at hkept
    rcases eq_or_mem_of_mem_intercalate hkept with hbar | ⟨body, hbody, hmem⟩
    · exact .inr (.inr hbar)
    · exact .inr (.inl (hbodies body hbody c hmem))

/-- No other character stands among alternatives. -/
theorem not_mem_alternatives
    (halternatives : Text.withoutBlanks alternatives = ['|'].intercalate bodies)
    (hbodies : ∀ body ∈ bodies, ∀ c ∈ body, IsSymbol c) {d : Char}
    (hblank : Text.isBlank d = false) (hsymbol : ¬ IsSymbol d) (hbar : d ≠ '|') :
    d ∉ alternatives := by
  intro hmem
  rcases blank_or_symbol_or_bar halternatives hbodies hmem with h | h | h
  · exact Bool.false_ne_true (hblank.symm.trans h)
  · exact hsymbol h
  · exact hbar h

/-- Bodies are found again in whichever way white space stands between their characters. -/
theorem splitOn_plainArrows
    (halternatives : Text.withoutBlanks alternatives = ['|'].intercalate bodies) (hne : bodies ≠ [])
    (hbodies : ∀ body ∈ bodies, ∀ c ∈ body, IsSymbol c) :
    ((plainArrows alternatives).splitOn '|').map Text.withoutBlanks = bodies := by
  have hsingle : '→' ∉ alternatives :=
    not_mem_alternatives halternatives hbodies (by decide) (by decide +kernel) (by decide)
  have hcolon : ':' ∉ alternatives :=
    not_mem_alternatives halternatives hbodies (by decide) (by decide +kernel) (by decide)
  have hbar : ∀ body ∈ bodies, '|' ∉ body := by
    have hsign : ¬ IsSymbol '|' := by decide +kernel
    exact fun body hbody hmem => hsign (hbodies body hbody _ hmem)
  -- No other arrow is left to be replaced, and blanks may be dropped before or after splitting.
  rw [plainArrows_eq_self hsingle hcolon, Text.map_withoutBlanks_splitOn (by decide), halternatives,
    List.splitOn_intercalate '|' hbar hne]

/-- A written head is made of symbols and angle brackets. -/
theorem WrittenHead.mem (h : WrittenHead head written) (hhead : isNonterminal head = true)
    {c : Char} (hc : c ∈ written) : IsSymbol c ∨ c ∈ ['<', '>'] := by
  cases h with
  | plain =>
    rw [List.mem_singleton.1 hc]
    exact .inl (.inl hhead)
  | bracketed =>
    simp only [List.mem_cons, List.not_mem_nil, or_false] at hc
    rcases hc with rfl | rfl | rfl
    · exact .inr (by decide)
    · exact .inl (.inl hhead)
    · exact .inr (by decide)

/-- No blank stands in a written head. -/
theorem WrittenHead.not_blank (h : WrittenHead head written) (hhead : isNonterminal head = true) :
    ∀ c ∈ written, Text.isBlank c = false := by
  have hbrackets : ∀ c ∈ ['<', '>'], Text.isBlank c = false := by
    simp only [List.forall_mem_cons]
    exact ⟨by decide, by decide, List.forall_mem_nil _⟩
  intro c hc
  exact (h.mem hhead hc).elim IsSymbol.not_blank (hbrackets c)

/-- A written head is not empty. -/
theorem WrittenHead.ne_nil (h : WrittenHead head written) : written ≠ [] := by
  cases h <;> exact List.cons_ne_nil _ _

/-- Brackets are taken off a head. -/
theorem WrittenHead.unbracketed_eq (h : WrittenHead head written)
    (hhead : isNonterminal head = true) : unbracketed written = [head] := by
  cases h with
  | plain =>
    have hbracket : head ≠ '<' := IsSymbol.ne (.inl hhead) (by decide +kernel)
    unfold unbracketed
    split
    next heq => exact absurd (List.head_eq_of_cons_eq heq) hbracket
    next => rfl
  | bracketed => rfl

/-- What follows a head is no symbol: a blank, or the first character of an arrow. -/
theorem not_isSymbol_of_head? {gap arrow : List Char} (hgap : IsGap gap) (harrow : arrow ∈ arrows)
    (behind : List Char) {c : Char} (hc : (gap ++ (arrow ++ behind)).head? = some c) :
    ¬ IsSymbol c := by
  cases gap with
  | nil =>
    -- What comes first is the sign of an arrow, or else a blank of the gap.
    have hsign : ∀ arrow ∈ arrows, arrow ≠ [] ∧ arrow.head?.all (¬ IsSymbol ·) = true := by
      decide +kernel
    obtain ⟨hne, hfirst⟩ := hsign arrow harrow
    rw [List.nil_append, List.head?_append_of_ne_nil _ hne] at hc
    simpa [hc] using hfirst
  | cons blank gap =>
    obtain rfl : blank = c := Option.some.inj hc
    intro hsymbol
    exact Bool.false_ne_true (hsymbol.not_blank.symm.trans (hgap blank List.mem_cons_self))

/-- A keyword begins with two symbols, and a line with rules does not. -/
theorem WrittenHead.not_keyword (h : WrittenHead head written) {gap arrow : List Char}
    (hgap : IsGap gap) (harrow : arrow ∈ arrows) (behind : List Char) :
    ∀ keyword ∈ keywords, ¬ keyword.toList <+: written ++ (gap ++ (arrow ++ behind)) := by
  -- A keyword begins with two symbols. A head in brackets begins with none, and no symbol follows
  -- a plain one.
  have hsymbols : ∀ keyword ∈ keywords,
      keyword.toList.head?.all (IsSymbol ·) = true ∧
        keyword.toList.tail.head?.all (IsSymbol ·) = true ∧ 2 ≤ keyword.toList.length := by
    decide +kernel
  intro keyword hkeyword hprefix
  obtain ⟨hfirst, hsecond, hlength⟩ := hsymbols keyword hkeyword
  obtain ⟨first, second, rest, hletters⟩ : ∃ first second rest,
      keyword.toList = first :: second :: rest := by
    match keyword.toList, hlength with
    | first :: second :: rest, _ => exact ⟨first, second, rest, rfl⟩
  rw [hletters] at hfirst hsecond hprefix
  obtain ⟨behindKeyword, hline⟩ := hprefix
  cases h with
  | plain =>
    have htail : second :: (rest ++ behindKeyword) = gap ++ (arrow ++ behind) :=
      List.tail_eq_of_cons_eq hline
    have hhead : (gap ++ (arrow ++ behind)).head? = some second := by
      rw [← htail, List.head?_cons]
    exact not_isSymbol_of_head? hgap harrow behind hhead (of_decide_eq_true hsecond)
  | bracketed =>
    have hbracket : ¬ IsSymbol '<' := by decide +kernel
    have hsame : first = '<' := List.head_eq_of_cons_eq hline
    exact hbracket (hsame ▸ of_decide_eq_true hfirst)

/-- No arrow stands in a head and the gap behind it, so the first arrow is the one after them. -/
theorem not_infix_written (h : WrittenHead head written) (hhead : isNonterminal head = true)
    {gap : List Char} (hgap : IsGap gap) : ∀ arrow ∈ arrows, ¬ arrow <:+: written ++ gap := by
  have hsign : ∀ arrow ∈ arrows,
      arrow.any (fun c => ¬ IsSymbol c ∧ c ∉ ['<', '>'] ∧ Text.isBlank c = false) = true := by
    decide +kernel
  intro arrow harrow hwithin
  obtain ⟨c, hc, hapart⟩ := List.any_eq_true.1 (hsign arrow harrow)
  obtain ⟨hsymbol, hbracket, hblank⟩ := of_decide_eq_true hapart
  rcases List.mem_append.1 (hwithin.subset hc) with hmem | hmem
  · exact (h.mem hhead hmem).elim hsymbol hbracket
  · exact hgap.not_mem hblank hmem

end Rules

/-! ## Lines and rows -/

/-- A line is seen as saying something. -/
structure Seen (content : List Char) (said : Line) : Prop where
  not_hash : '#' ∉ content
  trim_ne_nil : Text.trim content ≠ []
  reads : Line.Says (Text.trim content) said

/-- A keyword line is seen without the blanks around it. -/
theorem seen_keyword {before behind : List Char} {keyword : String} (hbefore : IsGap before)
    (hkeyword : keyword ∈ keywords) (hhash : '#' ∉ behind)
    (hformat : Line.Says (keyword.toList ++ Text.trimEnd behind) said) :
    Seen (before ++ (keyword.toList ++ behind)) said := by
  have htrim := trim_keyword hbefore hkeyword behind
  have hne : keyword.toList ≠ [] := by
    have hkeywords : ∀ keyword ∈ keywords, keyword.toList ≠ [] := by decide
    exact hkeywords keyword hkeyword
  refine ⟨?_, ?_, htrim ▸ hformat⟩
  · rw [List.mem_append, List.mem_append, not_or, not_or]
    exact ⟨hbefore.not_mem isBlank_hash, not_hash_of_mem_keywords hkeyword, hhash⟩
  · rw [htrim]
    exact List.append_ne_nil_of_left_ne_nil hne _

/-- What stands in front of bodies neither begins nor ends with white space. -/
theorem trim_rules {before written arrow : List Char} {head : Char} (hbefore : IsGap before)
    (hhead : isNonterminal head = true) (hwritten : WrittenHead head written)
    (harrow : arrow ∈ arrows) (gap alternatives : List Char) :
    Text.trim (before ++ (written ++ gap ++ arrow ++ alternatives)) =
      written ++ gap ++ arrow ++ Text.trimEnd alternatives := by
  -- No arrow ends in a blank, so trimming stops at it at the latest.
  have hends : ∀ arrow ∈ arrows,
      arrow ≠ [] ∧ arrow.getLast?.all (!Text.isBlank ·) = true := by
    decide +kernel
  obtain ⟨hne, hlast⟩ := hends arrow harrow
  refine Text.trim_gap_append hbefore (List.append_ne_nil_of_right_ne_nil _ hne) ?_ ?_ alternatives
  · intro c hc
    rw [List.append_assoc, List.head?_append_of_ne_nil _ hwritten.ne_nil] at hc
    exact hwritten.not_blank hhead c (List.mem_of_mem_head? hc)
  · intro c hc
    rw [List.getLast?_append_of_ne_nil _ hne] at hc
    simpa [hc] using hlast

/-- A line of rules is seen as the rules that it lays out, whichever arrow and gaps it has. -/
theorem seen_rules {before written gap arrow : List Char} {head : Char} (hbefore : IsGap before)
    (hhead : isNonterminal head = true) (hwritten : WrittenHead head written) (hgap : IsGap gap)
    (harrow : arrow ∈ arrows) (hne : bodies ≠ [])
    (hbodies : ∀ body ∈ bodies, ∀ c ∈ body, IsSymbol c)
    (halternatives : Text.withoutBlanks alternatives = ['|'].intercalate bodies) :
    Seen (before ++ (written ++ gap ++ arrow ++ alternatives)) (.rules [head] bodies) := by
  have htrim := trim_rules hbefore hhead hwritten harrow gap alternatives
  refine ⟨?_, ?_, ?_⟩
  · have hsymbol : ¬ IsSymbol '#' := by decide +kernel
    have harrows : ∀ arrow ∈ arrows, '#' ∉ arrow := by decide
    -- No part of the line opens a comment: heads, arrows and bodies have no hash sign.
    have hhash : '#' ∉ written := fun hmem =>
      (hwritten.mem hhead hmem).elim hsymbol (by decide)
    have hbehind : '#' ∉ alternatives :=
      not_mem_alternatives halternatives hbodies isBlank_hash hsymbol (by decide)
    simp only [List.mem_append, not_or]
    exact ⟨hbefore.not_mem isBlank_hash, ⟨⟨hhash, hgap.not_mem isBlank_hash⟩,
      harrows arrow harrow⟩, hbehind⟩
  · rw [htrim, List.append_assoc, List.append_assoc]
    exact List.append_ne_nil_of_left_ne_nil hwritten.ne_nil _
  · have hplain : ∀ keyword ∈ keywords,
        ¬ keyword.toList <+: written ++ gap ++ arrow ++ Text.trimEnd alternatives := by
      simpa only [List.append_assoc] using
        hwritten.not_keyword hgap harrow (Text.trimEnd alternatives)
    -- The line is a rule to the format, with the head found before the first arrow.
    have hformat := Line.Says.rules hplain harrow (not_infix_written hwritten hhead hgap) rfl
    have hhead' : Text.trim (written ++ gap) = written := by
      rw [Text.trim_append_gap hgap, Text.trim_eq_self (hwritten.not_blank hhead)]
    have hstripped := (Text.withoutBlanks_trimEnd alternatives).trans halternatives
    rw [hhead', hwritten.unbracketed_eq hhead, splitOn_plainArrows hstripped hne hbodies] at hformat
    rw [htrim]
    exact hformat

/-- A line is seen between the white space around it, and says what it was meant to say. -/
theorem Layout.seen (h : Layout content said) : Seen content said := by
  cases h with
  | @start before gap value behind hbefore hgap hvalue hhash hbehind =>
    have hformat : Line.Says ("START:".toList ++ Text.trimEnd (gap ++ value ++ behind))
        (.start (Text.trim (Text.trimEnd (gap ++ value ++ behind)))) :=
      .start rfl
    rw [Text.trim_trimEnd, Text.trim_append_gap hbehind, Text.trim_append_of_blank hgap,
      hvalue] at hformat
    refine seen_keyword hbefore (by decide) ?_ hformat
    rw [List.mem_append, List.mem_append, not_or, not_or]
    exact ⟨⟨hgap.not_mem isBlank_hash, hhash⟩, hbehind.not_mem isBlank_hash⟩
  | @nonterminals before names keyword tokens hbefore hkeyword hnames =>
    have hmem : keyword ∈ keywords := by
      rcases hkeyword with rfl | rfl <;> decide
    have hwords : Text.words (Text.trimEnd names) = tokens :=
      (Text.words_trimEnd names).trans hnames.words_eq
    exact seen_keyword hbefore hmem hnames.not_hash (hwords ▸ .nonterminals hkeyword rfl)
  | @terminals before names tokens hbefore hnames =>
    have hwords : Text.words (Text.trimEnd names) = tokens :=
      (Text.words_trimEnd names).trans hnames.words_eq
    exact seen_keyword hbefore (by decide) hnames.not_hash (hwords ▸ .terminals rfl)
  | rules hbefore hhead hwritten hgap harrow hne hbodies halternatives =>
    exact seen_rules hbefore hhead hwritten hgap harrow hne hbodies halternatives

/-- A line makes up a row without a comment. -/
theorem Layout.row (h : Layout content said) : Row content (some said) := by
  have hrow := Row.line h .none
  rwa [List.append_nil] at hrow

/-- A row is read as saying something, or it is passed over. -/
def ReadsAs (row : List Char) (said : Option Line) : Prop :=
  Option.Rel Line.Says (visible? row) said

/-- Rows that are passed over add nothing to what the others say. -/
theorem forall₂_says_of_readsAs {rows : List (List Char)} {said : List (Option Line)}
    (h : List.Forall₂ ReadsAs rows said) :
    List.Forall₂ Line.Says (rows.filterMap visible?) (said.filterMap id) :=
  List.rel_filterMap (R := ReadsAs) (fun _ _ hreads => hreads) h

/-- Cutting at the first comment sign takes the comment away and nothing else. -/
theorem takeWhile_append_comment (hhash : '#' ∉ content) (hcomment : Comment comment) :
    (content ++ comment).takeWhile (· != '#') = content := by
  have hkept : ∀ c ∈ content, (c != '#') = true := fun c hc =>
    bne_iff_ne.2 fun heq => hhash (heq ▸ hc)
  rw [List.takeWhile_append_of_pos hkept]
  cases hcomment with
  | none => simp
  | hash remark => simp

/-- A row is read as what it was meant to say. -/
theorem Row.readsAs {row : List Char} {said : Option Line} (h : Row row said) :
    ReadsAs row said := by
  cases h with
  | line hlayout hcomment =>
    have hseen := hlayout.seen
    -- The comment is cut off before anything is read.
    rw [ReadsAs, visible?, takeWhile_append_comment hseen.not_hash hcomment]
    split
    next hnil => exact absurd hnil hseen.trim_ne_nil
    next => exact .some hseen.reads
  | blank hgap hcomment =>
    have htrim := Text.trim_append_gap hgap []
    rw [ReadsAs, visible?, takeWhile_append_comment (hgap.not_mem isBlank_hash) hcomment]
    rw [List.nil_append] at htrim
    rw [htrim]
    exact .none

end Document

end CykChart
