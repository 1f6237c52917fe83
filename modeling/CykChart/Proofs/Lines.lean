import CykChart.Document.Reading
import CykChart.Proofs.Preliminaries
import Mathlib.Data.List.Infix

/-!
# What lines say

The format of grammar texts as a relation between a visible line and what it says, which does not
mention how a line is scanned: a line is a keyword with its value, or it is no such line and has an
arrow. The first arrow of a line, in any of its three spellings, ends the head.

The reader rewrites all arrows to one spelling and looks for that one. No spelling overlaps
another, so the arrow it finds is the first arrow of the line as it stood.

## Main definitions

- `Document.Line.Says`: the format of a line.
- `Document.visibleLines`: the lines of a text that have to say something.

## Main results

- `Document.cutArrow?_plainArrows_eq_some_iff`: the reader cuts a line at its first arrow.
- `Document.Line.read?_eq_some_iff`: the reader for one line accepts exactly the format.
- `Document.read_eq_ok_iff`: a text is a document when each of its lines says something.
-/

namespace CykChart.Document

/-- The keywords that begin a line which states no rules. -/
def keywords : List String :=
  ["START:", "NONTERMINALS:", "NON_TERMINALS:", "TERMINALS:"]

/-- The spellings of an arrow. -/
def arrows : List (List Char) :=
  [['-', '>'], ['→'], [':', ':', '=']]

/-- What a visible line says in the format of grammar texts. -/
inductive Line.Says (line : List Char) : Line → Prop where
  /-- The start symbol. -/
  | start {value : List Char} (h : line = "START:".toList ++ value) :
      Says line (.start (Text.trim value))
  /-- Nonterminals to declare, after a keyword in either spelling. -/
  | nonterminals {keyword : String} {names : List Char}
      (hkeyword : keyword = "NONTERMINALS:" ∨ keyword = "NON_TERMINALS:")
      (h : line = keyword.toList ++ names) :
      Says line (.nonterminals (Text.words names))
  /-- Terminals to declare. -/
  | terminals {names : List Char} (h : line = "TERMINALS:".toList ++ names) :
      Says line (.terminals (Text.words names))
  /-- The rules of a head, which is what stands before the first arrow. -/
  | rules {head arrow alternatives : List Char}
      (hplain : ∀ keyword ∈ keywords, ¬ keyword.toList <+: line)
      (harrow : arrow ∈ arrows) (hfirst : ∀ other ∈ arrows, ¬ other <:+: head)
      (h : line = head ++ arrow ++ alternatives) :
      Says line (.rules (unbracketed (Text.trim head))
        (((plainArrows alternatives).splitOn '|').map Text.withoutBlanks))

/-- The lines of a text that have to say something: those that are not blank when what follows the
first `#` is dropped. -/
def visibleLines (text : List Char) : List (List Char) :=
  (Text.lines text).filterMap visible?

/-! ## Arrows -/

/-- There are three arrows. -/
theorem mem_arrows {arrow : List Char} :
    arrow ∈ arrows ↔ arrow = ['-', '>'] ∨ arrow = ['→'] ∨ arrow = [':', ':', '='] := by
  simp [arrows]

/-- Where an arrow stands after a text without arrows, no arrow begins inside that text: no end of
one spelling is the beginning of another. -/
theorem not_prefix_of_first_arrow {c : Char} {before arrow rest : List Char}
    (harrow : arrow ∈ arrows) (hfirst : ∀ other ∈ arrows, ¬ other <:+: c :: before) :
    ∀ other ∈ arrows, ¬ other <+: c :: (before ++ arrow ++ rest) := by
  intro other hother hprefix
  -- An arrow that begins here either lies within the text or reaches into the other arrow.
  apply hfirst other hother
  refine List.IsPrefix.isInfix ?_
  -- The spellings are short, so two further characters of the text decide which it is.
  rw [mem_arrows] at harrow hother
  rcases hother with rfl | rfl | rfl <;> rcases harrow with rfl | rfl | rfl <;>
    rcases before with _ | ⟨second, _ | ⟨third, before⟩⟩ <;> simp_all
  all_goals exact hprefix

/-- Rewriting the arrows of a line makes no character a `>` that was none. -/
theorem plainArrows_eq_cons_iff {line rest : List Char} :
    plainArrows line = '>' :: rest ↔
      ∃ behind, line = '>' :: behind ∧ rest = plainArrows behind := by
  fun_cases plainArrows line with
  | case1 => simp
  | case2 => simp
  | case3 c behind => simp [eq_comm]
  | case4 => simp

/-- Where no arrow begins the text is not cut, and nothing is replaced. -/
theorem cutArrow?_plainArrows_cons {c : Char} {rest : List Char}
    (h : ∀ arrow ∈ arrows, ¬ arrow <+: c :: rest) :
    cutArrow? (plainArrows (c :: rest)) =
      (cutArrow? (plainArrows rest)).map fun (before, behind) => (c :: before, behind) := by
  -- The other spellings are absent, so rewriting keeps `c`; then `->` is not made up by it either.
  simp only [arrows, List.forall_mem_cons] at h
  obtain ⟨hdash, hsingle, hcolons, -⟩ := h
  have hplain : plainArrows (c :: rest) = c :: plainArrows rest := by
    apply plainArrows.eq_3
    · rintro rfl
      exact hsingle (by simp)
    · rintro behind rfl rfl
      exact hcolons (by simp)
  rw [hplain]
  apply cutArrow?.eq_2
  rintro behind rfl hbehind
  obtain ⟨tail, rfl, -⟩ := plainArrows_eq_cons_iff.1 hbehind
  exact hdash (by simp)

/-- A text is cut at its first arrow, whichever of the three it is. -/
theorem cutArrow?_plainArrows_of_first {head arrow alternatives : List Char}
    (harrow : arrow ∈ arrows) (hfirst : ∀ other ∈ arrows, ¬ other <:+: head) :
    cutArrow? (plainArrows (head ++ arrow ++ alternatives)) =
      some (head, plainArrows alternatives) := by
  -- By induction on the head: no arrow begins at any of its characters.
  induction head with
  | nil =>
    rw [mem_arrows] at harrow
    rcases harrow with rfl | rfl | rfl <;> rfl
  | cons c before ih =>
    have hbefore : ∀ other ∈ arrows, ¬ other <:+: before :=
      fun other hother hinfix => hfirst other hother (List.infix_cons hinfix)
    have hbegin : ∀ other ∈ arrows, ¬ other <+: c :: (before ++ arrow ++ alternatives) :=
      not_prefix_of_first_arrow harrow hfirst
    rw [List.cons_append, List.cons_append, cutArrow?_plainArrows_cons hbegin, ih hbefore]
    rfl

/-- The reader cuts a line at its first arrow. -/
theorem cutArrow?_plainArrows_eq_some_iff {line head tail : List Char} :
    cutArrow? (plainArrows line) = some (head, tail) ↔
      ∃ arrow ∈ arrows, ∃ alternatives, (∀ other ∈ arrows, ¬ other <:+: head) ∧
        line = head ++ arrow ++ alternatives ∧ tail = plainArrows alternatives := by
  constructor
  · intro h
    induction line generalizing head with
    | nil => exact absurd h (by simp [plainArrows, cutArrow?])
    | cons c rest ih =>
      by_cases hbegin : ∃ arrow ∈ arrows, arrow <+: c :: rest
      -- The line begins with an arrow, and the reader cuts it right there.
      · obtain ⟨arrow, harrow, alternatives, hline⟩ := hbegin
        have hempty : ∀ other ∈ arrows, ¬ other <:+: [] := by decide
        have hcut : cutArrow? (plainArrows ([] ++ arrow ++ alternatives)) = _ :=
          cutArrow?_plainArrows_of_first harrow hempty
        rw [List.nil_append, hline, h] at hcut
        obtain ⟨rfl, rfl⟩ := Prod.mk.inj (Option.some.inj hcut)
        exact ⟨arrow, harrow, alternatives, hempty, hline.symm, rfl⟩
      -- Else the first character belongs to the head, and the cut is in the rest of the line.
      · have hnone : ∀ arrow ∈ arrows, ¬ arrow <+: c :: rest :=
          fun arrow harrow hprefix => hbegin ⟨arrow, harrow, hprefix⟩
        rw [cutArrow?_plainArrows_cons hnone] at h
        obtain ⟨⟨before, behind⟩, hrest, hcons⟩ := Option.map_eq_some_iff.1 h
        obtain ⟨rfl, rfl⟩ := Prod.mk.inj hcons
        obtain ⟨arrow, harrow, alternatives, hfirst, rfl, rfl⟩ := ih hrest
        refine ⟨arrow, harrow, alternatives, fun other hother hinfix => ?_, rfl, rfl⟩
        -- An arrow inside the longer head would begin the line or lie in the shorter head.
        rcases List.infix_cons_iff.1 hinfix with hbegins | hinner
        · refine hnone other hother (hbegins.trans ?_)
          exact ⟨arrow ++ alternatives, by simp⟩
        · exact hfirst other hother hinner
  · rintro ⟨arrow, harrow, alternatives, hfirst, rfl, rfl⟩
    exact cutArrow?_plainArrows_of_first harrow hfirst

/-! ## The reader -/

/-- What follows a keyword is the rest of a line that begins with it. -/
theorem after?_eq_some_iff {keyword : String} {line value : List Char} :
    after? keyword line = some value ↔ line = keyword.toList ++ value := by
  rw [after?, List.isPrefixOf?_eq_some_iff_append_eq, eq_comm]

/-- Nothing follows a keyword on a line that does not begin with it. -/
theorem after?_eq_none_iff {keyword : String} {line : List Char} :
    after? keyword line = none ↔ ¬ keyword.toList <+: line := by
  constructor
  · rintro h ⟨value, rfl⟩
    rw [after?_eq_some_iff.2 rfl] at h
    exact absurd h (by simp)
  · intro h
    cases hafter : after? keyword line with
    | none => rfl
    | some value => exact absurd ⟨value, (after?_eq_some_iff.1 hafter).symm⟩ h

/-- A line of rules is a head and alternatives with the first arrow between them. -/
theorem readRules?_eq_some_iff {line : List Char} {said : Line} :
    readRules? line = some said ↔
      ∃ head, ∃ arrow ∈ arrows, ∃ alternatives, (∀ other ∈ arrows, ¬ other <:+: head) ∧
        line = head ++ arrow ++ alternatives ∧
        said = .rules (unbracketed (Text.trim head))
          (((plainArrows alternatives).splitOn '|').map Text.withoutBlanks) := by
  rw [readRules?, Option.map_eq_some_iff]
  constructor
  · rintro ⟨⟨head, tail⟩, hcut, rfl⟩
    obtain ⟨arrow, harrow, alternatives, hfirst, hline, rfl⟩ :=
      cutArrow?_plainArrows_eq_some_iff.1 hcut
    exact ⟨head, arrow, harrow, alternatives, hfirst, hline, rfl⟩
  · rintro ⟨head, arrow, harrow, alternatives, hfirst, hline, rfl⟩
    refine ⟨(head, plainArrows alternatives), ?_, rfl⟩
    exact cutArrow?_plainArrows_eq_some_iff.2 ⟨arrow, harrow, alternatives, hfirst, hline, rfl⟩

/-- The reader for one line accepts exactly the format. -/
theorem Line.read?_eq_some_iff {line : List Char} {said : Line} :
    Line.read? line = some said ↔ Line.Says line said := by
  constructor
  · intro h
    unfold Line.read? at h
    split at h
    next value hstart => exact Option.some.inj h ▸ .start (after?_eq_some_iff.1 hstart)
    next hstart =>
      split at h
      next names hspelled =>
        exact Option.some.inj h ▸ .nonterminals (.inr rfl) (after?_eq_some_iff.1 hspelled)
      next names _ hspelled =>
        exact Option.some.inj h ▸ .nonterminals (.inl rfl) (after?_eq_some_iff.1 hspelled)
      next names _ _ hterminals =>
        exact Option.some.inj h ▸ .terminals (after?_eq_some_iff.1 hterminals)
      -- All keywords are ruled out, as the format asks of a line with rules.
      next hlow hplain hterminals =>
        obtain ⟨head, arrow, harrow, alternatives, hfirst, hline, rfl⟩ :=
          readRules?_eq_some_iff.1 h
        refine .rules ?_ harrow hfirst hline
        simp only [keywords, List.forall_mem_cons]
        exact ⟨after?_eq_none_iff.1 hstart, after?_eq_none_iff.1 hplain,
          after?_eq_none_iff.1 hlow, after?_eq_none_iff.1 hterminals, by simp⟩
  · intro h
    cases h with
    | start h => rw [Line.read?, after?_eq_some_iff.2 h]
    | @nonterminals keyword names hkeyword h =>
      -- No keyword begins with another, so the tests before this one fail by computation.
      rcases hkeyword with rfl | rfl <;> subst h <;> rfl
    | terminals h => subst h; rfl
    | @rules head arrow alternatives hplain harrow hfirst h =>
      simp only [keywords, List.forall_mem_cons, ← after?_eq_none_iff] at hplain
      obtain ⟨hstart, hnames, hspelled, hterminals, -⟩ := hplain
      rw [Line.read?, hstart, hnames, hspelled, hterminals]
      exact readRules?_eq_some_iff.2 ⟨head, arrow, harrow, alternatives, hfirst, h, rfl⟩

/-- A line is read as what it says by the format. -/
theorem readLine_eq_ok_iff {line : List Char} {said : Line} :
    readLine line = .ok said ↔ Line.Says line said := by
  rw [← Line.read?_eq_some_iff, readLine]
  cases Line.read? line <;> simp

/-- Lines are read when each of them says something. -/
theorem mapM_readLine_eq_ok_iff {lines : List (List Char)} {said : List Line} :
    lines.mapM readLine = .ok said ↔ List.Forall₂ Line.Says lines said := by
  induction lines generalizing said with
  | nil =>
    rw [List.mapM_nil, List.forall₂_nil_left_iff]
    exact ⟨fun h => (Except.ok.inj h).symm, fun h => h ▸ rfl⟩
  | cons line rest ih =>
    rw [List.mapM_cons]
    constructor
    · intro h
      -- Reading stops at the first line that cannot be read.
      obtain ⟨first, hline, hlater⟩ := bind_eq_ok_iff.1 h
      obtain ⟨others, hrest, hall⟩ := bind_eq_ok_iff.1 hlater
      exact Except.ok.inj hall ▸ .cons (readLine_eq_ok_iff.1 hline) (ih.1 hrest)
    · rintro (_ | ⟨hfirst, hothers⟩)
      rw [readLine_eq_ok_iff.2 hfirst, ih.2 hothers]
      rfl

/-- A text is a document when each of its visible lines says something. -/
theorem read_eq_ok_iff {text : List Char} {document : Document} :
    read text = .ok document ↔ List.Forall₂ Line.Says (visibleLines text) document.lines := by
  rw [← mapM_readLine_eq_ok_iff, read, map_eq_ok_iff, visibleLines]
  constructor
  · rintro ⟨said, hread, rfl⟩
    exact hread
  · intro h
    exact ⟨document.lines, h, rfl⟩

/-- A line does not say two things. -/
theorem Line.Says.unique {line : List Char} {said other : Line} (h : Line.Says line said)
    (hother : Line.Says line other) : said = other :=
  Option.some.inj ((Line.read?_eq_some_iff.2 h).symm.trans (Line.read?_eq_some_iff.2 hother))

end CykChart.Document
