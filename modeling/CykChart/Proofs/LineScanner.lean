import CykChart.Collection
import CykChart.Proofs.LetterCase
import CykChart.Proofs.Pieces

/-!
# Sections line by line

The sections of a file are found by splitting its text at the matches of a pattern. A match runs
over the ends of lines: it takes in the blank lines after a header, and gives some of them back so
that it ends where a line ends. This file reads the same sections line by line, where a line is a
header or it is not, and proves that the two readings agree.

The line scanner is followed from every place of the text at once. A place inside a line looks at
the rest of that line, which is no header whatever it says. Reading on by one character then changes
what the scanner finds in one way only, unless a header begins at the place.

## Main definitions

- `Collection.IsHeader`, `Collection.headerName?`: header lines.
- `Collection.gather`, `Collection.scan`: the line scanner.

## Main results

- `Collection.headerName?_eq_some_iff`: what header lines look like.
- `Collection.sections_eq_scan`: the pattern finds the sections that the line scanner finds.
-/

namespace CykChart.Text

/-! ## Lines and white space -/

/-- The text up to the end of the line. -/
def firstLine (cs : List Char) : List Char :=
  cs.takeWhile (· != '\n')

/-- The lines after the first one. -/
def otherLines (cs : List Char) : List (List Char) :=
  (lines cs).tail

/-- A line feed opens a new line, and any other character is on the first one. -/
theorem lines_cons (c : Char) (rest : List Char) :
    lines (c :: rest) =
      if c = '\n' then [] :: lines rest else (lines rest).modifyHead (c :: ·) := by
  rw [lines, List.splitOn_cons_eq_if_modifyHead]
  simp only [beq_iff_eq]
  rfl

/-- A text has a first line and the lines after it. -/
theorem lines_eq_cons (cs : List Char) : lines cs = firstLine cs :: otherLines cs := by
  induction cs with
  | nil => rfl
  | cons c rest ih =>
    rw [otherLines, firstLine, lines_cons]
    split
    next hc => simp [hc]
    next hc => simp [hc, ih, firstLine]

/-- A character that is no line feed is on the first line. -/
theorem firstLine_cons {c : Char} {rest : List Char} (h : c ≠ '\n') :
    firstLine (c :: rest) = c :: firstLine rest := by
  simp [firstLine, h]

/-- It is on no other line. -/
theorem otherLines_cons {c : Char} {rest : List Char} (h : c ≠ '\n') :
    otherLines (c :: rest) = otherLines rest := by
  rw [otherLines, lines_cons, if_neg h, lines_eq_cons]
  rfl

/-- Behind a line feed the other lines begin. -/
theorem otherLines_newline (rest : List Char) : otherLines ('\n' :: rest) = lines rest := by
  rw [otherLines, lines_cons, if_pos rfl]
  rfl

/-- The first line ends at the end of a line. -/
theorem exists_line_end (behind cs : List Char) :
    ∃ rest, cs = firstLine cs ++ rest ∧ Place.atLineEnd ⟨behind, rest⟩ = true := by
  induction cs with
  | nil => exact ⟨[], rfl, rfl⟩
  | cons c rest ih =>
    by_cases hc : c = '\n'
    · exact ⟨c :: rest, by simp [firstLine, hc], by simp [Place.atLineEnd, hc]⟩
    · obtain ⟨tail, htail, hend⟩ := ih
      refine ⟨tail, ?_, hend⟩
      rw [firstLine_cons hc, List.cons_append, ← htail]

/-- What holds no line feed is on the first line as a whole. -/
theorem firstLine_append {cs rest : List Char} (h : '\n' ∉ cs) :
    firstLine (cs ++ rest) = cs ++ firstLine rest := by
  induction cs with
  | nil => rfl
  | cons c more ih =>
    rw [List.mem_cons, not_or] at h
    rw [List.cons_append, firstLine_cons (Ne.symm h.1), ih h.2, List.cons_append]

/-- The other lines do not depend on it. -/
theorem otherLines_append {cs rest : List Char} (h : '\n' ∉ cs) :
    otherLines (cs ++ rest) = otherLines rest := by
  induction cs with
  | nil => rfl
  | cons c more ih =>
    rw [List.mem_cons, not_or] at h
    rw [List.cons_append, otherLines_cons (Ne.symm h.1), ih h.2]

/-- No character of words is white space: the two tables have no code point in common. -/
theorem isBlank_eq_false {c : Char} (h : isWordChar c = true) : isBlank c = false := by
  have hword : wordChars.ascending = true := by decide +kernel
  have hblanks : blanks.ascending = true := by decide +kernel
  have hapart : wordChars.apart blanks = true := by decide +kernel
  exact CharSet.has_eq_false_of_apart hword hblanks hapart h

/-- The letters without accents are characters of words. -/
theorem isWordChar_of_letter {c : Char} (h : isAsciiLetter c = true) : isWordChar c = true := by
  rw [isWordChar, CharSet.has_iff]
  simp only [isAsciiLetter, Bool.or_eq_true, Bool.and_eq_true, decide_eq_true_eq, Char.le_def,
    UInt32.le_iff_toNat_le] at h
  -- Capital letters and small letters are each one run of the table.
  rcases h with ⟨hfirst, hlast⟩ | ⟨hfirst, hlast⟩
  · refine ⟨⟨0x41, 0x5A, 1⟩, by decide, ?_⟩
    simpa [Run.has, Nat.mod_one] using And.intro hfirst hlast
  · refine ⟨⟨0x61, 0x7A, 1⟩, by decide, ?_⟩
    simpa [Run.has, Nat.mod_one] using And.intro hfirst hlast

/-- A line feed is white space. -/
theorem isBlank_newline : isBlank '\n' = true := by
  decide

/-- A line feed at the end is trimmed. -/
theorem trimEnd_append_newline (cs : List Char) : trimEnd (cs ++ ['\n']) = trimEnd cs := by
  rw [trimEnd, trimEnd, List.reverse_append, List.reverse_singleton, List.singleton_append,
    List.dropWhile_cons_of_pos isBlank_newline]

/-- So it is when both ends are trimmed. -/
theorem trim_append_newline (cs : List Char) : trim (cs ++ ['\n']) = trim cs := by
  rw [trim, trim, List.dropWhile_append]
  -- If nothing but white space stands before the new line end, it is dropped from the front.
  split
  next hempty =>
    have hnil : cs.dropWhile isBlank = [] := by simpa using hempty
    rw [hnil]
    decide
  next => exact trimEnd_append_newline _

end CykChart.Text

namespace CykChart.Collection

open Text (Place firstLine otherLines lines)

/-! ## The line scanner -/

/-- A line is the header of a name: an ASCII letter and word characters, then a colon, and white
space to the end of the line. -/
def IsHeader (line name : List Char) : Prop :=
  ∃ c more blank, name = c :: more ∧ line = name ++ ':' :: blank ∧
    Text.isAsciiLetter c = true ∧ (∀ d ∈ more, Text.isWordChar d = true) ∧
    ∀ d ∈ blank, Text.isBlank d = true

/-- The name in a header; none for any other line. -/
def headerName? : List Char → Option (List Char)
  | [] => none
  | c :: rest =>
    if !Text.isAsciiLetter c then none
    else match rest.dropWhile Text.isWordChar with
      | ':' :: blank =>
        if blank.all Text.isBlank then some (c :: rest.takeWhile Text.isWordChar) else none
      | _ => none

/-- The lines before the first header, and the name and lines of each section. -/
def gather : List (List Char) → List (List Char) × List (List Char × List (List Char))
  | [] => ([], [])
  | line :: rest =>
    -- Lines without header belong to the header above them, which is met later on the way back.
    let (before, sections) := gather rest
    match headerName? line with
    | some name => ([], (name, before) :: sections)
    | none => (line :: before, sections)

/-- The sections of a text, line by line. -/
def scan (text : List Char) : List Section :=
  (gather (lines text)).2.map fun (name, lines) =>
    ⟨String.ofList name, Text.trim (['\n'].intercalate lines)⟩

/-- A colon is no character of words, so a name ends before it. -/
theorem isWordChar_colon : Text.isWordChar ':' = false := by
  decide +kernel

/-- The line scanner finds the name that a header has. -/
theorem headerName?_eq_some_iff {line name : List Char} :
    headerName? line = some name ↔ IsHeader line name := by
  constructor
  · intro h
    cases line with
    | nil => exact absurd h (by simp [headerName?])
    | cons c rest =>
      -- A header passes three tests: on its first letter, on the colon and on what follows it.
      rw [headerName?] at h
      split at h
      next => exact absurd h (by simp)
      next hletter =>
        split at h
        next blank hrest =>
          split at h
          next hblank =>
            have hname := Option.some.inj h
            refine ⟨c, rest.takeWhile Text.isWordChar, blank, hname.symm, ?_, ?_, ?_, ?_⟩
            · rw [← hname, ← hrest, List.cons_append, List.takeWhile_append_dropWhile]
            · simpa using hletter
            · exact fun d hd => List.mem_takeWhile_imp hd
            · simpa using hblank
          next => exact absurd h (by simp)
        next => exact absurd h (by simp)
  · rintro ⟨c, more, blank, rfl, rfl, hletter, hword, hblank⟩
    -- The colon is no word character, so the run of word characters ends right before it.
    have hdrop : (more ++ ':' :: blank).dropWhile Text.isWordChar = ':' :: blank := by
      rw [List.dropWhile_append_of_pos hword,
        List.dropWhile_cons_of_neg (by simp [isWordChar_colon])]
    have htake : (more ++ ':' :: blank).takeWhile Text.isWordChar = more := by
      rw [List.takeWhile_append_of_pos hword,
        List.takeWhile_cons_of_neg (by simp [isWordChar_colon]), List.append_nil]
    rw [List.cons_append, headerName?, hdrop, htake]
    simpa [hletter] using hblank

/-! ## The pattern -/

/-- The pattern matches at a header, and the match ends at the end of a line, with nothing but white
space between it and the colon. -/
theorem mem_ways_header {place last : Place} {name : List Char} :
    (name, last) ∈ header.ways place ↔
      place.atLineStart = true ∧ ∃ c more blank, name = c :: more ∧
        Text.isAsciiLetter c = true ∧ (∀ d ∈ more, Text.isWordChar d = true) ∧
        (∀ d ∈ blank, Text.isBlank d = true) ∧ place.Reaches (name ++ ':' :: blank) last ∧
        last.atLineEnd = true := by
  rw [Text.Pattern.mem_ways]
  simp only [header, Text.Piece.mem_allWays_cons, Text.Piece.mem_allWays_nil, Text.Piece.Accepts,
    beq_iff_eq]
  constructor
  · rintro ⟨_, entry, exit, _, ⟨_, _, _, ⟨hstart, rfl⟩, hentry, ⟨rfl, rfl⟩, rfl⟩,
      ⟨_, _, _, ⟨c, hletter, rfl⟩, hc, ⟨more, _, _, hword, hmore, ⟨rfl, rfl⟩, rfl⟩, rfl⟩,
      ⟨_, _, _, ⟨_, rfl, rfl⟩, hcolon, ⟨blank, _, _, hblank, hrest, ⟨_, _, _, ⟨hend, rfl⟩, hlast,
        ⟨rfl, rfl⟩, rfl⟩, rfl⟩, rfl⟩⟩
    -- The anchors take no characters: the places before and after them are the same.
    rw [Place.reaches_nil_iff] at hentry hlast
    rw [hentry] at hc
    rw [← hlast] at hrest hend
    refine ⟨hstart, c, more, blank, by simp, hletter, hword, hblank, ?_, hend⟩
    simpa using (hc.trans hmore).trans (hcolon.trans hrest)
  · rintro ⟨hstart, c, more, blank, rfl, hletter, hword, hblank, hreach, hend⟩
    -- The pieces meet where the name's first letter, the name and the colon end.
    obtain ⟨exit, hname, htrail⟩ := hreach.exists_between
    obtain ⟨second, hc, hmore⟩ : ∃ second, place.Reaches [c] second ∧ second.Reaches more exit :=
      Place.Reaches.exists_between hname
    obtain ⟨third, hcolon, hrest⟩ : ∃ third, exit.Reaches [':'] third ∧ third.Reaches blank last :=
      Place.Reaches.exists_between htrail
    have hstay : ∀ {here : Place}, here.Reaches [] here := Place.reaches_nil_iff.2 rfl
    refine ⟨[], place, exit, ':' :: blank, ⟨[], place, [], ⟨hstart, rfl⟩, hstay, ⟨rfl, rfl⟩, rfl⟩,
      ⟨[c], second, more, ⟨c, hletter, rfl⟩, hc,
        ⟨more, exit, [], hword, hmore, ⟨rfl, rfl⟩, by simp⟩, rfl⟩,
      ⟨[':'], third, blank, ⟨':', rfl, rfl⟩, hcolon,
        ⟨blank, last, [], hblank, hrest,
          ⟨[], last, [], ⟨hend, rfl⟩, hstay, ⟨rfl, rfl⟩, rfl⟩, by simp⟩, rfl⟩⟩

/-- A header's name and colon are part of one line. -/
theorem newline_not_mem_name {c : Char} {more : List Char} (hletter : Text.isAsciiLetter c = true)
    (hword : ∀ d ∈ more, Text.isWordChar d = true) : '\n' ∉ c :: (more ++ [':']) := by
  have hnewline : Text.isWordChar '\n' = false := by decide +kernel
  intro hmem
  rcases List.mem_cons.1 hmem with rfl | hmem
  · exact absurd hletter (by decide)
  · rcases List.mem_append.1 hmem with hmore | hcolon
    · rw [hword _ hmore] at hnewline
      exact Bool.noConfusion hnewline
    · exact absurd (List.mem_singleton.1 hcolon) (by decide)

/-- White space that runs to the end of a line fills the line where it begins. -/
theorem firstLine_blank {blank : List Char} {last : Place}
    (hblank : ∀ d ∈ blank, Text.isBlank d = true) (hend : last.atLineEnd = true) :
    ∀ d ∈ firstLine (blank ++ last.ahead), Text.isBlank d = true := by
  -- By induction on the white space: the line ends inside it, or right after it.
  induction blank with
  | nil =>
    obtain ⟨behind, _ | ⟨c, rest⟩⟩ := last
    · simp [firstLine]
    · obtain rfl : c = '\n' := by simpa [Place.atLineEnd] using hend
      simp [firstLine]
  | cons c more ih =>
    obtain ⟨hc, hmore⟩ := List.forall_mem_cons.1 hblank
    by_cases hnewline : c = '\n'
    · simp [firstLine, hnewline]
    · rw [List.cons_append, Text.firstLine_cons hnewline]
      exact List.forall_mem_cons.2 ⟨hc, ih hmore⟩

/-- Where the pattern matches, the line scanner sees a header, and after the colon the match runs
over white space that fills the rest of the line. -/
theorem header_of_match {place last : Place} {name : List Char}
    (h : header.match? place = some (name, last)) :
    place.atLineStart = true ∧ headerName? (firstLine place.ahead) = some name ∧
      ∃ (colon : Place) (blank : List Char),
        colon.Reaches blank last ∧ colon.behind.head? = some ':' ∧
        (∀ d ∈ blank, Text.isBlank d = true) ∧
        (∀ d ∈ firstLine colon.ahead, Text.isBlank d = true) ∧
        otherLines place.ahead = otherLines colon.ahead := by
  obtain ⟨hstart, c, more, blank, rfl, hletter, hword, hblank, hreach, hend⟩ :=
    mem_ways_header.1 (List.mem_of_head? h)
  have hnewline : '\n' ∉ c :: (more ++ [':']) := newline_not_mem_name hletter hword
  -- The name and the colon stay on one line; only the white space after them may leave it.
  rw [show c :: more ++ ':' :: blank = (c :: (more ++ [':'])) ++ blank by simp] at hreach
  obtain ⟨colon, hcolon, hrest⟩ := hreach.exists_between
  have hline : ∀ d ∈ firstLine colon.ahead, Text.isBlank d = true := by
    rw [hrest.1]
    exact firstLine_blank hblank hend
  refine ⟨hstart, ?_, colon, blank, hrest, ?_, hblank, hline, ?_⟩
  · rw [hcolon.1, Text.firstLine_append hnewline, headerName?_eq_some_iff]
    exact ⟨c, more, firstLine colon.ahead, rfl, by simp, hletter, hword, hline⟩
  · rw [hcolon.2]
    simp
  · rw [hcolon.1, Text.otherLines_append hnewline]

/-- Where a line begins and the pattern does not match, the line is no header. -/
theorem no_header_of_no_match {place : Place} (h : header.match? place = none)
    (hstart : place.atLineStart = true) : headerName? (firstLine place.ahead) = none := by
  cases hname : headerName? (firstLine place.ahead) with
  | none => rfl
  | some name =>
    obtain ⟨c, more, blank, rfl, hline, hletter, hword, hblank⟩ := headerName?_eq_some_iff.1 hname
    -- The match that takes in no further line would do.
    obtain ⟨rest, hahead, hend⟩ :=
      Text.exists_line_end ((firstLine place.ahead).reverse ++ place.behind) place.ahead
    have hreach : place.Reaches (c :: more ++ ':' :: blank)
        ⟨(firstLine place.ahead).reverse ++ place.behind, rest⟩ := by
      rw [← hline]
      exact ⟨hahead, rfl⟩
    have hway := mem_ways_header.2
      ⟨hstart, c, more, blank, rfl, hletter, hword, hblank, hreach, hend⟩
    rw [Text.Pattern.match?, List.head?_eq_none_iff] at h
    rw [h] at hway
    exact absurd hway List.not_mem_nil

/-! ## Following the line scanner -/

/-- What the line scanner finds from a place on. A line that began before the place is no header. -/
def gatherFrom (place : Place) : List (List Char) × List (List Char × List (List Char)) :=
  if place.atLineStart then gather (lines place.ahead)
  else
    let (before, sections) := gather (otherLines place.ahead)
    (firstLine place.ahead :: before, sections)

/-- The text before the first header. -/
def leadText : List (List Char) × List (List Char × List (List Char)) → List Char
  | (before, []) => ['\n'].intercalate before
  | (before, _ :: _) => before.flatMap (· ++ ['\n'])

/-- A line without header goes before the sections. -/
theorem gather_of_no_header {cs : List Char} (h : headerName? (firstLine cs) = none) :
    gather (lines cs) =
      (firstLine cs :: (gather (otherLines cs)).1, (gather (otherLines cs)).2) := by
  rw [Text.lines_eq_cons, gather, h]

/-- A header opens a section with the lines up to the next one. -/
theorem gather_of_header {cs name : List Char} (h : headerName? (firstLine cs) = some name) :
    gather (lines cs) =
      ([], (name, (gather (otherLines cs)).1) :: (gather (otherLines cs)).2) := by
  rw [Text.lines_eq_cons, gather, h]

/-- A line that is no header, or that began before the place, goes before the sections. -/
theorem gatherFrom_of_no_header {place : Place}
    (h : place.atLineStart = true → headerName? (firstLine place.ahead) = none) :
    gatherFrom place =
      (firstLine place.ahead :: (gather (otherLines place.ahead)).1,
        (gather (otherLines place.ahead)).2) := by
  rw [gatherFrom]
  split
  next hstart => exact gather_of_no_header (h hstart)
  next => rfl

/-- Without headers all lines come before the first header. -/
theorem gather_fst_ne_nil {cs : List Char} (h : (gather (lines cs)).2 = []) :
    (gather (lines cs)).1 ≠ [] := by
  cases hname : headerName? (firstLine cs) with
  | none =>
    rw [gather_of_no_header hname]
    exact List.cons_ne_nil _ _
  | some name =>
    rw [gather_of_header hname] at h
    exact absurd h (List.cons_ne_nil _ _)

/-- An empty line before the first header is a line feed in the text before it. -/
theorem leadText_newline {before : List (List Char)}
    {sections : List (List Char × List (List Char))} (h : sections = [] → before ≠ []) :
    leadText ([] :: before, sections) = '\n' :: leadText (before, sections) := by
  cases sections with
  | nil =>
    -- A line end stands between two lines here, so the empty line needs one after it.
    obtain ⟨line, rest, rfl⟩ := List.exists_cons_of_ne_nil (h rfl)
    simp [leadText, List.intercalate]
  | cons => simp [leadText]

/-- The text before the first header begins as its first line does. -/
theorem leadText_cons (c : Char) (line : List Char) (before : List (List Char))
    (sections : List (List Char × List (List Char))) :
    leadText ((c :: line) :: before, sections) = c :: leadText (line :: before, sections) := by
  cases sections with
  | nil => cases before <;> simp [leadText, List.intercalate]
  | cons => simp [leadText]

/-- Reading on by one character, where no header begins, moves the character out of the text before
the first header and changes nothing else. -/
theorem gatherFrom_cons {c : Char} {behind rest : List Char}
    (h : Place.atLineStart ⟨behind, c :: rest⟩ = true →
      headerName? (firstLine (c :: rest)) = none) :
    (gatherFrom ⟨behind, c :: rest⟩).2 = (gatherFrom ⟨c :: behind, rest⟩).2 ∧
      leadText (gatherFrom ⟨behind, c :: rest⟩) =
        c :: leadText (gatherFrom ⟨c :: behind, rest⟩) := by
  rw [gatherFrom_of_no_header h]
  by_cases hc : c = '\n'
  -- Past the end of a line the scanner is at the beginning of the next one.
  · subst hc
    have hnext : gatherFrom ⟨'\n' :: behind, rest⟩ = gather (lines rest) := by
      simp [gatherFrom, Place.atLineStart]
    have hline : firstLine ('\n' :: rest) = [] := rfl
    rw [hnext, hline, Text.otherLines_newline]
    exact ⟨rfl, leadText_newline gather_fst_ne_nil⟩
  -- Past any other character it is inside the same line, which no longer counts as a header.
  · have hnext : gatherFrom ⟨c :: behind, rest⟩ =
        (firstLine rest :: (gather (otherLines rest)).1, (gather (otherLines rest)).2) :=
      gatherFrom_of_no_header fun hstart => absurd hstart (by simp [Place.atLineStart, hc])
    rw [hnext, Text.firstLine_cons hc, Text.otherLines_cons hc]
    exact ⟨rfl, leadText_cons _ _ _ _⟩

/-- A line that begins with white space is no header. -/
theorem headerName?_of_blank {c : Char} {rest : List Char} (h : Text.isBlank c = true) :
    headerName? (firstLine (c :: rest)) = none := by
  by_cases hc : c = '\n'
  · simp [firstLine, hc, headerName?]
  · rw [Text.firstLine_cons hc, headerName?]
    cases hletter : Text.isAsciiLetter c with
    | true =>
      rw [Text.isBlank_eq_false (Text.isWordChar_of_letter hletter)] at h
      exact Bool.noConfusion h
    | false => rfl

/-- Reading over white space finds no header, also where it takes in whole lines. -/
theorem gatherFrom_of_blank {place last : Place} {blank : List Char}
    (hreach : place.Reaches blank last) (hblank : ∀ d ∈ blank, Text.isBlank d = true) :
    (gatherFrom place).2 = (gatherFrom last).2 ∧
      leadText (gatherFrom place) = blank ++ leadText (gatherFrom last) := by
  -- By induction on the white space, as the place moves on through it.
  induction blank generalizing place with
  | nil =>
    rw [Place.reaches_nil_iff.1 hreach]
    exact ⟨rfl, rfl⟩
  | cons c more ih =>
    obtain ⟨hc, hmore⟩ := List.forall_mem_cons.1 hblank
    obtain ⟨behind, ahead⟩ := place
    obtain ⟨rest, rfl, hrest⟩ := Place.reaches_cons_iff.1 hreach
    have hno : Place.atLineStart ⟨behind, c :: rest⟩ = true →
        headerName? (firstLine (c :: rest)) = none := fun _ => headerName?_of_blank hc
    obtain ⟨hsections, hlead⟩ := gatherFrom_cons hno
    obtain ⟨ihSections, ihLead⟩ := ih hrest hmore
    exact ⟨hsections.trans ihSections, by rw [hlead, ihLead, List.cons_append]⟩

/-- The end of the last line before a header is white space at the end. -/
theorem trim_leadText (before : List (List Char)) (sections : List (List Char × List (List Char))) :
    Text.trim (leadText (before, sections)) = Text.trim (['\n'].intercalate before) := by
  cases sections with
  | nil => rfl
  | cons part others =>
    -- A line end after each line is a line end between each two, and one more at the end.
    have hends : before ≠ [] →
        before.flatMap (· ++ ['\n']) = ['\n'].intercalate before ++ ['\n'] := by
      intro hne
      induction before with
      | nil => exact absurd rfl hne
      | cons line rest ih =>
        cases rest with
        | nil => simp [List.intercalate]
        | cons second rest =>
          rw [List.flatMap_cons, ih (List.cons_ne_nil _ _)]
          simp [List.intercalate]
    cases before with
    | nil => rfl
    | cons line rest =>
      rw [leadText, hends (List.cons_ne_nil _ _), Text.trim_append_newline]

/-- A line of white space at the front is trimmed, with its line feed. -/
theorem trim_intercalate_cons {line : List Char} (h : ∀ d ∈ line, Text.isBlank d = true)
    (rest : List (List Char)) :
    Text.trim (['\n'].intercalate (line :: rest)) = Text.trim (['\n'].intercalate rest) := by
  cases rest with
  | nil =>
    have htrim : Text.trim (line ++ []) = Text.trim [] := Text.trim_append_of_blank h
    simpa [List.intercalate] using htrim
  | cons second rest =>
    -- The line end after the line is white space too.
    have hblank : ∀ d ∈ line ++ ['\n'], Text.isBlank d = true :=
      List.forall_mem_append.2 ⟨h, List.forall_mem_singleton.2 Text.isBlank_newline⟩
    have htrim : Text.trim (line ++ ['\n'] ++ ['\n'].intercalate (second :: rest)) = _ :=
      Text.trim_append_of_blank hblank
    simpa [List.intercalate] using htrim

/-- The text after a match and the lines after the header have the same sections, and the same text
before them but for white space at its ends. -/
theorem gatherFrom_of_match {place last : Place} {name : List Char}
    (h : header.match? place = some (name, last)) :
    ∃ before, gatherFrom place = ([], (name, before) :: (gatherFrom last).2) ∧
      Text.trim (leadText (gatherFrom last)) = Text.trim (['\n'].intercalate before) := by
  obtain ⟨hstart, hname, colon, blank, hreach, hcolon, hblank, hline, hothers⟩ := header_of_match h
  obtain ⟨hsections, hlead⟩ := gatherFrom_of_blank hreach hblank
  -- With the colon behind it, the place is inside a line.
  have hinside : gatherFrom colon =
      (firstLine colon.ahead :: (gather (otherLines colon.ahead)).1,
        (gather (otherLines colon.ahead)).2) := by
    apply gatherFrom_of_no_header
    intro hcolonStart
    rw [Place.atLineStart, hcolon] at hcolonStart
    cases hbehind : colon.behind with
    | nil => rw [hbehind] at hcolon; exact absurd hcolon (by simp)
    | cons => rw [hbehind] at hcolonStart; exact absurd hcolonStart (by simp)
  refine ⟨(gather (otherLines place.ahead)).1, ?_, ?_⟩
  · rw [gatherFrom, if_pos hstart, gather_of_header hname, hothers, ← hsections, hinside]
  · calc Text.trim (leadText (gatherFrom last))
        = Text.trim (leadText (gatherFrom colon)) := by
          rw [hlead, Text.trim_append_of_blank hblank]
      _ = Text.trim (['\n'].intercalate
            (firstLine colon.ahead :: (gather (otherLines colon.ahead)).1)) := by
          rw [hinside, trim_leadText]
      _ = Text.trim (['\n'].intercalate (gather (otherLines place.ahead)).1) := by
          rw [trim_intercalate_cons hline, hothers]

/-- Splitting at the pattern yields the text before the first header, and for each header the text
up to the next one but for white space at its ends. -/
theorem split_header (place : Place) :
    (header.split place).1 = leadText (gatherFrom place) ∧
      (header.split place).2.map (fun (name, between) => (name, Text.trim between)) =
        (gatherFrom place).2.map
          fun (name, lines) => (name, Text.trim (['\n'].intercalate lines)) := by
  -- By induction on what stands ahead: a match leaves less of it, and so does one character.
  induction hn : place.ahead.length using Nat.strong_induction_on generalizing place with
  | _ n ih =>
    subst hn
    cases hmatch : header.match? place with
    | some found =>
      obtain ⟨name, last⟩ := found
      obtain ⟨before, hgather, htrim⟩ := gatherFrom_of_match hmatch
      -- The match is not empty, so less text is ahead after it.
      have hshorter : last.ahead.length < place.ahead.length :=
        Text.Pattern.length_lt_of_mem_ways (List.mem_of_head? hmatch)
      obtain ⟨ihLead, ihSections⟩ := ih _ hshorter last rfl
      rw [Text.Pattern.split_of_match hmatch, hgather]
      refine ⟨rfl, ?_⟩
      rw [List.map_cons, List.map_cons, ihSections]
      show (name, Text.trim (header.split last).1) :: _ = _
      rw [ihLead, htrim]
    | none =>
      obtain ⟨behind, _ | ⟨c, rest⟩⟩ := place
      · have hgather : gatherFrom ⟨behind, []⟩ = ([[]], []) := by
          rw [gatherFrom]
          split <;> rfl
        rw [Text.Pattern.split_of_no_match_nil hmatch, hgather]
        exact ⟨rfl, rfl⟩
      · obtain ⟨hsections, hlead⟩ := gatherFrom_cons (no_header_of_no_match hmatch)
        obtain ⟨ihLead, ihSections⟩ := ih _ (Nat.lt_succ_self rest.length) ⟨c :: behind, rest⟩ rfl
        rw [Text.Pattern.split_of_no_match hmatch, hsections, hlead]
        exact ⟨by rw [ihLead], ihSections⟩

/-- The names of sections are not surrounded by white space. -/
theorem trim_name {line name : List Char} (h : IsHeader line name) : Text.trim name = name := by
  obtain ⟨c, more, blank, rfl, -, hletter, hword, -⟩ := h
  apply Text.trim_eq_self
  intro d hd
  rcases List.mem_cons.1 hd with rfl | hmore
  · exact Text.isBlank_eq_false (Text.isWordChar_of_letter hletter)
  · exact Text.isBlank_eq_false (hword d hmore)

/-- Each section has its name from a header among the lines. -/
theorem isHeader_of_mem_gather {ls : List (List Char)} {name : List Char}
    {between : List (List Char)} (h : (name, between) ∈ (gather ls).2) :
    ∃ line ∈ ls, IsHeader line name := by
  -- By induction on the lines: the first one adds a section only if it is a header.
  induction ls with
  | nil => exact absurd h List.not_mem_nil
  | cons line rest ih =>
    rw [gather] at h
    cases hname : headerName? line with
    | none =>
      rw [hname] at h
      obtain ⟨found, hfound, hheader⟩ := ih h
      exact ⟨found, List.mem_cons_of_mem _ hfound, hheader⟩
    | some first =>
      rw [hname] at h
      rcases List.mem_cons.1 h with heq | hrest
      · obtain ⟨rfl, -⟩ := Prod.mk.inj heq
        exact ⟨line, List.mem_cons_self, headerName?_eq_some_iff.1 hname⟩
      · obtain ⟨found, hfound, hheader⟩ := ih hrest
        exact ⟨found, List.mem_cons_of_mem _ hfound, hheader⟩

/-- The pattern finds the sections that the line scanner finds. -/
theorem sections_eq_scan (text : List Char) : sections text = scan text := by
  -- Both readings name their sections after the fact, so only names and trimmed texts matter.
  have hpairs := (split_header (.first text)).2
  have hstart : gatherFrom (.first text) = gather (lines text) := rfl
  rw [hstart] at hpairs
  calc sections text
      = ((header.split (.first text)).2.map fun (name, between) => (name, Text.trim between)).map
          fun (name, trimmed) => ⟨String.ofList (Text.trim name), trimmed⟩ := by
        rw [List.map_map]
        rfl
    _ = (gather (lines text)).2.map fun (name, lines) =>
          ⟨String.ofList (Text.trim name), Text.trim (['\n'].intercalate lines)⟩ := by
        rw [hpairs, List.map_map]
        rfl
    _ = scan text := by
        refine List.map_congr_left fun part hpart => ?_
        obtain ⟨line, -, hheader⟩ := isHeader_of_mem_gather hpart
        show Section.mk (String.ofList (Text.trim part.1)) _ = _
        rw [trim_name hheader]

end CykChart.Collection
