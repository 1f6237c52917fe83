import CykChart.Dot
import Mathlib.Data.List.TakeWhile

/-!
# Words in the DOT language

A source consists of words and signs. A bare word ends where a character follows that cannot be part
of one, a quoted word at the next quote without a backslash before it. A bare word is a keyword, an
identifier or a numeral. A quoted word is never a keyword, which is why a text that is a keyword
stands in quotes.

A text without backslashes becomes a word that is read as that text. The language reserves the
backslash for quotes within quotes.

## Main definitions

- `Dot.Token`, `Dot.tokens?`: the words and signs of a source.
- `Dot.EndsWord`: the texts that end the bare word before them.
- `Dot.Unescaped`: the texts that stand between quotes as they are.

## Main results

- `Dot.lex_word`: the word that a text becomes is read as that text.
-/

namespace CykChart.Dot

/-! ## Words and signs -/

/-- The words and signs of a source. -/
inductive Token where
  /-- A word that names something. -/
  | name (text : String)
  /-- A keyword, in lower case. -/
  | keyword (text : List Char)
  /-- A brace, a bracket or an equals sign. -/
  | sign (c : Char)
  /-- The arrow of an edge. -/
  | arrow
  deriving DecidableEq, Repr

/-- The characters between words. -/
def blanks : List Char :=
  [' ', '\t', '\n', '\r']

/-- The signs of one character. -/
def signs : List Char :=
  ['\x7b', '\x7d', '[', ']', '=']

/-- Whether a character can continue a bare word. -/
def isBare (c : Char) : Bool :=
  beginsIdentifier c || c.isDigit || c == '.'

/-- Whether a text is a keyword, in any case. -/
def isKeyword (cs : List Char) : Bool :=
  keywords.any fun keyword => keyword.toList == cs.map Char.toLower

/-- What a bare word stands for. -/
def bareToken? (cs : List Char) : Option Token :=
  if isKeyword cs then some (.keyword (cs.map Char.toLower))
  else if isIdentifier cs || isNumeral cs then some (.name (String.ofList cs))
  else none

/-- What the reader is within. -/
inductive Mode where
  /-- It is between words. -/
  | between
  /-- It is within a bare word. -/
  | bare (taken : List Char)
  /-- It is after a dash, which begins an arrow or a negative numeral. -/
  | dash
  /-- It is within quotes. -/
  | quoted (taken : List Char)
  /-- It is after a backslash within quotes. -/
  | escaped (taken : List Char)
  deriving DecidableEq, Repr

/-- How far a source is read. -/
structure Reading where
  /-- The words and signs so far, the last one first. -/
  taken : List Token := []
  /-- What the reader is within. -/
  mode : Mode := .between
  deriving DecidableEq, Repr

namespace Reading

/-- The reading when a word ends here, if one can. -/
def settle (reading : Reading) : Option Reading :=
  match reading.mode with
  | .between => some reading
  | .bare taken => (bareToken? taken).map fun token => ⟨token :: reading.taken, .between⟩
  | _ => none

/-- The reading after a character that does not continue a word. -/
def enter (reading : Reading) (c : Char) : Option Reading :=
  if c ∈ blanks then some reading
  else if c ∈ signs then some ⟨.sign c :: reading.taken, .between⟩
  else if c = '\x22' then some { reading with mode := .quoted [] }
  else if c = '-' then some { reading with mode := .dash }
  else if isBare c then some { reading with mode := .bare [c] }
  else none

/-- The reading after a character. -/
def step (reading : Reading) (c : Char) : Option Reading :=
  match reading.mode with
  | .between => reading.enter c
  | .bare taken =>
    if isBare c then some { reading with mode := .bare (taken ++ [c]) }
    else reading.settle.bind (·.enter c)
  | .dash =>
    if c = '>' then some ⟨.arrow :: reading.taken, .between⟩
    else if isBare c then some { reading with mode := .bare ['-', c] }
    else none
  | .quoted taken =>
    if c = '\x22' then some ⟨.name (String.ofList taken) :: reading.taken, .between⟩
    else if c = '\\' then some { reading with mode := .escaped taken }
    else some { reading with mode := .quoted (taken ++ [c]) }
  | .escaped taken =>
    -- Only a quote loses its backslash.
    if c = '\x22' then some { reading with mode := .quoted (taken ++ [c]) }
    else some { reading with mode := .quoted (taken ++ ['\\', c]) }

/-- The reading at the end of a text. -/
def lex (reading : Reading) : List Char → Option Reading
  | [] => reading.settle
  | c :: rest => (reading.step c).bind fun next => next.lex rest

end Reading

/-- The words and signs of a source. -/
def tokens? (cs : List Char) : Option (List Token) :=
  (Reading.lex {} cs).map fun last => last.taken.reverse

/-! ## What words are read as -/

section Words

variable {cs rest : List Char} {taken : List Token}

/-- A text begins with a character that ends the bare word before it. -/
def EndsWord (cs : List Char) : Prop :=
  ∃ c rest, cs = c :: rest ∧ isBare c = false

/-- A bare word is over when a character follows that ends it. -/
theorem Reading.lex_bare_of_endsWord {token : Token} (htoken : bareToken? cs = some token)
    (hrest : EndsWord rest) :
    Reading.lex ⟨taken, .bare cs⟩ rest = Reading.lex ⟨token :: taken, .between⟩ rest := by
  obtain ⟨c, rest, rfl, hc⟩ := hrest
  simp [Reading.lex, Reading.step, Reading.settle, hc, htoken]

/-- Characters of bare words are taken one after the other. -/
theorem Reading.lex_bare_append (acc : List Char) (hbare : ∀ c ∈ cs, isBare c = true) :
    Reading.lex ⟨taken, .bare acc⟩ (cs ++ rest) =
      Reading.lex ⟨taken, .bare (acc ++ cs)⟩ rest := by
  induction cs generalizing acc with
  | nil => simp
  | cons c cs ih =>
    obtain ⟨hc, hcs⟩ := List.forall_mem_cons.1 hbare
    simp [Reading.lex, Reading.step, hc, ih _ hcs]

/-- No blank, sign, quote or part of an arrow is part of a bare word. -/
theorem not_mem_of_isBare {c : Char} (hc : isBare c = true) :
    c ∉ blanks ++ signs ++ ['\x22', '-', '>'] := by
  have hnone : (blanks ++ signs ++ ['\x22', '-', '>']).all (fun c => !isBare c) = true := by
    decide +kernel
  intro hmem
  have hbare := List.all_eq_true.1 hnone c hmem
  simp [hc] at hbare

/-- A character of bare words begins one between words. -/
theorem Reading.enter_of_isBare {c : Char} (hc : isBare c = true) :
    Reading.enter ⟨taken, .between⟩ c = some ⟨taken, .bare [c]⟩ := by
  have hnone := not_mem_of_isBare hc
  simp only [List.mem_append, List.mem_cons, not_or] at hnone
  obtain ⟨⟨hblank, hsign⟩, hquote, hdash, -⟩ := hnone
  simp [Reading.enter, hblank, hsign, hquote, hdash, hc]

/-- A numeral without sign is a bare word. -/
theorem isBare_of_isUnsigned (h : isUnsigned cs = true) : cs ≠ [] ∧ ∀ c ∈ cs, isBare c = true := by
  have hdigit : ∀ {c : Char}, c.isDigit = true → isBare c = true := fun h => by simp [isBare, h]
  -- The digits in front, and then nothing or a point and a fraction.
  have hcut : cs = cs.takeWhile Char.isDigit ++ cs.dropWhile Char.isDigit :=
    List.takeWhile_append_dropWhile.symm
  have hfront : ∀ c ∈ cs.takeWhile Char.isDigit, isBare c = true := fun c hc =>
    hdigit (List.mem_takeWhile_imp hc)
  rw [isUnsigned] at h
  split at h
  next hnil =>
    refine ⟨by simpa using h, fun c hc => hfront c ?_⟩
    rwa [hcut, hnil, List.append_nil] at hc
  next fraction hpoint =>
    refine ⟨fun hcs => by simp [hcs] at hpoint, fun c hc => ?_⟩
    rw [hcut, hpoint, List.mem_append, List.mem_cons] at hc
    rcases hc with hfrontMem | rfl | hfraction
    · exact hfront c hfrontMem
    · rfl
    · exact hdigit (List.all_eq_true.1 (Bool.and_eq_true_iff.1 h).1 c hfraction)
  next => exact absurd h (by simp)

/-- An identifier is a bare word. -/
theorem isBare_of_isIdentifier (h : isIdentifier cs = true) :
    cs ≠ [] ∧ ∀ c ∈ cs, isBare c = true := by
  cases cs with
  | nil => exact absurd h (by simp [isIdentifier])
  | cons c cs =>
    rw [isIdentifier, Bool.and_eq_true_iff] at h
    refine ⟨List.cons_ne_nil _ _, List.forall_mem_cons.2 ⟨by simp [isBare, h.1], fun d hd => ?_⟩⟩
    have hd := List.all_eq_true.1 h.2 d hd
    rw [Bool.or_eq_true_iff] at hd
    rcases hd with hbegins | hdigit
    · simp [isBare, hbegins]
    · simp [isBare, hdigit]

/-- A numeral is one too, up to the dash in front. -/
theorem isBare_of_isNumeral (h : isNumeral cs = true) :
    ∀ c ∈ cs, c = '-' ∨ isBare c = true := by
  unfold isNumeral at h
  split at h
  next =>
    exact List.forall_mem_cons.2 ⟨.inl rfl, fun c hc => .inr ((isBare_of_isUnsigned h).2 c hc)⟩
  next => exact fun c hc => .inr ((isBare_of_isUnsigned h).2 c hc)

/-- A text with a character that no bare word has stands in quotes. -/
theorem word_eq_inQuotes {text : String} {c : Char} (hc : c ∈ text.toList) (hdash : c ≠ '-')
    (hbare : isBare c = false) : word text = String.ofList (inQuotes text.toList) := by
  have hne : isBare c ≠ true := by simp [hbare]
  have hidentifier : isIdentifier text.toList = false :=
    Bool.eq_false_iff.2 fun h => hne ((isBare_of_isIdentifier h).2 c hc)
  have hnumeral : isNumeral text.toList = false :=
    Bool.eq_false_iff.2 fun h => (isBare_of_isNumeral h c hc).elim hdash hne
  simp [word, hidentifier, hnumeral]

/-- Characters of a bare word are read up to where it ends. -/
theorem Reading.lex_of_isBare (hne : cs ≠ []) (hbare : ∀ c ∈ cs, isBare c = true) :
    Reading.lex ⟨taken, .between⟩ (cs ++ rest) = Reading.lex ⟨taken, .bare cs⟩ rest := by
  obtain ⟨c, cs, rfl⟩ := List.exists_cons_of_ne_nil hne
  obtain ⟨hc, hcs⟩ := List.forall_mem_cons.1 hbare
  have hfirst : Reading.lex ⟨taken, .between⟩ (c :: (cs ++ rest)) =
      Reading.lex ⟨taken, .bare [c]⟩ (cs ++ rest) := by
    simp [Reading.lex, Reading.step, Reading.enter_of_isBare hc]
  rw [List.cons_append, hfirst, Reading.lex_bare_append _ hcs, List.singleton_append]

/-- So are those of an identifier or numeral. -/
theorem Reading.lex_of_bareText (h : (isIdentifier cs || isNumeral cs) = true) :
    Reading.lex ⟨taken, .between⟩ (cs ++ rest) = Reading.lex ⟨taken, .bare cs⟩ rest := by
  rcases Bool.or_eq_true_iff.1 h with hidentifier | hnumeral
  · obtain ⟨hne, hbare⟩ := isBare_of_isIdentifier hidentifier
    exact Reading.lex_of_isBare hne hbare
  · unfold isNumeral at hnumeral
    split at hnumeral
    next unsigned =>
      -- After the dash comes a digit or a point, so this is no arrow.
      obtain ⟨hne, hbare⟩ := isBare_of_isUnsigned hnumeral
      obtain ⟨d, ds, rfl⟩ := List.exists_cons_of_ne_nil hne
      obtain ⟨hd, hds⟩ := List.forall_mem_cons.1 hbare
      have hnoArrow : d ≠ '>' := fun harrow => not_mem_of_isBare hd (by simp [harrow])
      have hdash : Reading.enter ⟨taken, .between⟩ '-' = some ⟨taken, .dash⟩ := by
        simp [Reading.enter, blanks, signs]
      simp only [List.cons_append, Reading.lex, Reading.step, hdash, Option.bind_some, hnoArrow,
        if_false, hd, if_true]
      exact Reading.lex_bare_append _ hds
    next =>
      obtain ⟨hne, hbare⟩ := isBare_of_isUnsigned hnumeral
      exact Reading.lex_of_isBare hne hbare

/-- A text in quotes is read up to the quote at its end. -/
theorem Reading.lex_quoted (acc : List Char) (hplain : '\\' ∉ cs) :
    Reading.lex ⟨taken, .quoted acc⟩
        (cs.flatMap (fun c => if c = '\x22' then ['\\', c] else [c]) ++ '\x22' :: rest) =
      Reading.lex ⟨.name (String.ofList (acc ++ cs)) :: taken, .between⟩ rest := by
  induction cs generalizing acc with
  | nil => simp [Reading.lex, Reading.step]
  | cons c cs ih =>
    obtain ⟨hc, hcs⟩ := not_or.1 (mt List.mem_cons.2 hplain)
    -- Either way the character itself is taken, and the rest is read after it.
    have hnext := ih (acc ++ [c]) hcs
    rw [List.append_assoc, List.singleton_append] at hnext
    rw [List.flatMap_cons, List.append_assoc, ← hnext]
    by_cases hquote : c = '\x22'
    · -- The backslash and the quote are two steps.
      subst hquote
      simp [Reading.lex, Reading.step]
    · simp [Reading.lex, Reading.step, hquote, Ne.symm hc]

/-- The word that a text becomes is read as that text. -/
theorem lex_word {text : String} (hplain : '\\' ∉ text.toList) (hrest : EndsWord rest) :
    Reading.lex ⟨taken, .between⟩ ((word text).toList ++ rest) =
      Reading.lex ⟨.name text :: taken, .between⟩ rest := by
  rw [word]
  split
  next hbare =>
    -- A bare word that is no keyword stands for itself.
    rw [Bool.and_eq_true_iff, Bool.not_eq_true'] at hbare
    have htoken : bareToken? text.toList = some (.name text) := by
      simp [bareToken?, isKeyword, hbare.1, hbare.2]
    rw [Reading.lex_of_bareText hbare.1, Reading.lex_bare_of_endsWord htoken hrest]
  next =>
    have hopen : ∀ cs, Reading.lex ⟨taken, .between⟩ ('\x22' :: cs) =
        Reading.lex ⟨taken, .quoted []⟩ cs := fun cs => rfl
    rw [String.toList_ofList, inQuotes, List.cons_append, List.cons_append, List.append_assoc,
      hopen, List.singleton_append, Reading.lex_quoted [] hplain, List.nil_append,
      String.ofList_toList]

end Words

/-- A text that stands between quotes as it is. -/
def Unescaped (text : String) : Prop :=
  '\x22' ∉ text.toList ∧ '\\' ∉ text.toList

instance (text : String) : Decidable (Unescaped text) :=
  inferInstanceAs (Decidable (_ ∧ _))

/-- A text stands as it is when none of its characters is a quote or a backslash. -/
theorem unescaped_iff {text : String} :
    Unescaped text ↔ ∀ c ∈ text.toList, c ≠ '\x22' ∧ c ≠ '\\' := by
  constructor
  · rintro ⟨hquote, hbackslash⟩ c hc
    exact ⟨ne_of_mem_of_not_mem hc hquote, ne_of_mem_of_not_mem hc hbackslash⟩
  · exact fun h => ⟨fun hmem => (h _ hmem).1 rfl, fun hmem => (h _ hmem).2 rfl⟩

/-- Between quotes nothing is put into such a text. -/
theorem Unescaped.inQuotes_eq {text : String} (h : Unescaped text) :
    String.ofList (inQuotes text.toList) = "\x22" ++ text ++ "\x22" := by
  have hkept : text.toList.flatMap (fun c => if c = '\x22' then ['\\', c] else [c]) =
      text.toList := by
    calc
      _ = text.toList.flatMap fun c => [c] := by
        rw [List.flatMap_def, List.flatMap_def]
        exact congrArg _ (List.map_congr_left fun c hc => if_neg (unescaped_iff.1 h c hc).1)
      _ = text.toList := List.flatMap_singleton' _
  rw [inQuotes, hkept, ← String.toList_inj]
  simp

end CykChart.Dot
