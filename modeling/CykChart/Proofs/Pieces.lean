import CykChart.Text.Scan
import Mathlib.Data.List.Basic
import Mathlib.Data.List.TakeWhile

/-!
# Texts put together from pieces

The functions that cut a text undo the ways in which one is put together: lines that are each ended
by a line feed, parts with a separator between them, and words with white space between them.

* `filter_intercalate`: what is kept of a joined list.
* `lines_flatMap_newline`: a text made of lines.
* `words_append_cons`: a text of words.
* `map_withoutBlanks_splitOn`: parts in which white space is dropped.

White space at the ends of a text makes no difference to its words, and `trim` takes it off.

* `trim_gap_append`: a text between white space.
* `words_trimEnd`, `withoutBlanks_trimEnd`, `trim_trimEnd`: what comes of a text without the white
  space at its end.
-/

namespace CykChart

section Joins

variable {α : Type} {sep : α}

/-- In a joined list each part but the first stands behind a separator. -/
theorem intercalate_cons_eq_flatMap (part : List α) (rest : List (List α)) :
    [sep].intercalate (part :: rest) = part ++ rest.flatMap (sep :: ·) := by
  induction rest generalizing part with
  | nil => simp
  | cons second rest ih => rw [List.intercalate_cons_cons, ih second, List.flatMap_cons]; simp

/-- What stands in a joined list is the separator or comes from one of the parts. -/
theorem eq_or_mem_of_mem_intercalate {a : α} {parts : List (List α)}
    (h : a ∈ [sep].intercalate parts) : a = sep ∨ ∃ part ∈ parts, a ∈ part := by
  cases parts with
  | nil => exact absurd h (by simp)
  | cons part rest =>
    rw [intercalate_cons_eq_flatMap, List.mem_append, List.mem_flatMap] at h
    rcases h with hfirst | ⟨other, hother, ha⟩
    · exact .inr ⟨part, List.mem_cons_self, hfirst⟩
    · rcases List.mem_cons.1 ha with hsep | hmem
      · exact .inl hsep
      · exact .inr ⟨other, List.mem_cons_of_mem _ hother, hmem⟩

/-- What is in no part and in no separator is not in the whole. -/
theorem not_mem_intercalate {a : α} {seps : List α} {parts : List (List α)} (hseps : a ∉ seps)
    (hparts : ∀ part ∈ parts, a ∉ part) : a ∉ seps.intercalate parts := by
  induction parts with
  | nil => simp
  | cons part rest ih =>
    obtain ⟨hpart, hrest⟩ := List.forall_mem_cons.1 hparts
    cases rest with
    | nil => simpa using hpart
    | cons second rest =>
      rw [List.intercalate_cons_cons, List.mem_append, List.mem_append, not_or, not_or]
      exact ⟨⟨hpart, hseps⟩, ih hrest⟩

/-- Dropping entries from a joined list drops them from the separator and from the parts. -/
theorem filter_intercalate (p : α → Bool) (seps : List α) (parts : List (List α)) :
    (seps.intercalate parts).filter p = (seps.filter p).intercalate (parts.map (List.filter p)) := by
  induction parts with
  | nil => rfl
  | cons part rest ih =>
    cases rest with
    | nil => simp
    | cons second rest =>
      rw [List.intercalate_cons_cons, List.filter_append, List.filter_append, ih, List.map_cons,
        List.map_cons, List.map_cons, List.intercalate_cons_cons]

/-- When nothing of the separator is kept, only the parts count. -/
theorem filter_intercalate_eq_flatten {p : α → Bool} {seps : List α} (hseps : seps.filter p = [])
    (parts : List (List α)) : (seps.intercalate parts).filter p = parts.flatten.filter p := by
  rw [filter_intercalate, hseps, List.filter_flatten]
  induction parts.map (List.filter p) with
  | nil => rfl
  | cons part rest ih =>
    cases rest with
    | nil => simp
    | cons second rest =>
      rw [List.intercalate_cons_cons, List.append_nil, ih]
      rfl

end Joins

namespace Text

/-- Nothing is dropped from a text that does not begin with white space. -/
theorem dropWhile_isBlank_eq_self {cs : List Char}
    (h : ∀ c, cs.head? = some c → isBlank c = false) : cs.dropWhile isBlank = cs := by
  cases cs with
  | nil => rfl
  | cons c rest => rw [List.dropWhile_cons_of_neg (by simp [h c rfl])]

/-- Trimming keeps a text without white space. -/
theorem trim_eq_self {cs : List Char} (h : ∀ c ∈ cs, isBlank c = false) : trim cs = cs := by
  have hfirst : ∀ c, cs.head? = some c → isBlank c = false := fun c hc =>
    h c (List.mem_of_mem_head? hc)
  have hlast : ∀ c, cs.reverse.head? = some c → isBlank c = false := fun c hc =>
    h c (List.mem_reverse.1 (List.mem_of_mem_head? hc))
  rw [trim, dropWhile_isBlank_eq_self hfirst, trimEnd, dropWhile_isBlank_eq_self hlast,
    List.reverse_reverse]

/-- White space at the front is trimmed. -/
theorem trim_append_of_blank {blank cs : List Char} (h : ∀ c ∈ blank, isBlank c = true) :
    trim (blank ++ cs) = trim cs := by
  rw [trim, trim, List.dropWhile_append_of_pos h]

/-- A text made of lines has these lines and an empty one behind them. -/
theorem lines_flatMap_newline {ls : List (List Char)} (h : ∀ line ∈ ls, '\n' ∉ line) :
    lines (ls.flatMap (· ++ ['\n'])) = ls ++ [[]] := by
  induction ls with
  | nil => rfl
  | cons line rest ih =>
    rw [List.forall_mem_cons] at h
    rw [List.flatMap_cons, lines, List.append_assoc, List.singleton_append,
      List.splitOn_append_cons_self_of_not_mem h.1, ← lines, ih h.2, List.cons_append]

/-- A text without white space is one word. -/
theorem words_eq_singleton {cs : List Char} (hne : cs ≠ []) (h : ∀ c ∈ cs, isBlank c = false) :
    words cs = [cs] := by
  rw [words, List.splitOnP_eq_singleton h]
  simp [hne]

/-- White space separates words. -/
theorem words_append_cons {blank : Char} (hblank : isBlank blank = true)
    (before behind : List Char) :
    words (before ++ blank :: behind) = words before ++ words behind := by
  rw [words, List.splitOnP_append_cons before behind hblank, List.filter_append]
  rfl

/-! ## White space at the ends -/

/-- A text is a gap when it is white space all through. -/
def IsGap (cs : List Char) : Prop :=
  ∀ c ∈ cs, isBlank c = true

/-- Whether a text is a gap is decidable. -/
instance (cs : List Char) : Decidable (IsGap cs) :=
  decidable_of_iff (cs.all isBlank = true) List.all_eq_true

variable {gap : List Char}

/-- A gap may be empty. -/
theorem isGap_nil : IsGap [] :=
  List.forall_mem_nil _

/-- A gap holds white space only. -/
theorem IsGap.not_mem {c : Char} (h : IsGap gap) (hc : isBlank c = false) : c ∉ gap :=
  fun hmem => Bool.false_ne_true (hc.symm.trans (h c hmem))

/-- Only white space is taken off the end of a text. -/
theorem exists_trimEnd_append (cs : List Char) : ∃ gap, IsGap gap ∧ cs = trimEnd cs ++ gap := by
  refine ⟨(cs.reverse.takeWhile isBlank).reverse, ?_, ?_⟩
  · intro c hc
    exact List.mem_takeWhile_imp (List.mem_reverse.1 hc)
  · rw [trimEnd, ← List.reverse_append, List.takeWhile_append_dropWhile, List.reverse_reverse]

/-- A gap at the end is trimmed. -/
theorem trimEnd_append_gap (hgap : IsGap gap) (cs : List Char) :
    trimEnd (cs ++ gap) = trimEnd cs := by
  have hreverse : ∀ c ∈ gap.reverse, isBlank c = true := fun c hc => hgap c (List.mem_reverse.1 hc)
  rw [trimEnd, trimEnd, List.reverse_append, List.dropWhile_append_of_pos hreverse]

/-- What does not end with white space is not touched by taking white space off what follows. -/
theorem trimEnd_append {front : List Char}
    (hlast : ∀ c, front.getLast? = some c → isBlank c = false)
    (behind : List Char) : trimEnd (front ++ behind) = front ++ trimEnd behind := by
  have hfront : front.reverse.dropWhile isBlank = front.reverse :=
    dropWhile_isBlank_eq_self (by rwa [List.head?_reverse])
  rw [trimEnd, trimEnd, List.reverse_append, List.dropWhile_append]
  split
  next hnil =>
    rw [hfront, List.isEmpty_iff.1 hnil, List.reverse_reverse, List.reverse_nil, List.append_nil]
  next => rw [List.reverse_append, List.reverse_reverse]

/-- So it is when both ends are trimmed. -/
theorem trim_append_gap (hgap : IsGap gap) (cs : List Char) : trim (cs ++ gap) = trim cs := by
  rw [trim, trim, List.dropWhile_append]
  split
  next hnil =>
    have hdropped : gap.dropWhile isBlank = [] := List.dropWhile_eq_nil_iff.2 hgap
    rw [hdropped, List.isEmpty_iff.1 hnil]
  next => exact trimEnd_append_gap hgap _

/-- Of a text between white space, what neither begins nor ends with white space is kept. -/
theorem trim_gap_append (hgap : IsGap gap) {front : List Char} (hne : front ≠ [])
    (hfirst : ∀ c, front.head? = some c → isBlank c = false)
    (hlast : ∀ c, front.getLast? = some c → isBlank c = false) (behind : List Char) :
    trim (gap ++ (front ++ behind)) = front ++ trimEnd behind := by
  have hbegin : ∀ c, (front ++ behind).head? = some c → isBlank c = false := by
    rwa [List.head?_append_of_ne_nil _ hne]
  rw [trim_append_of_blank hgap, trim, dropWhile_isBlank_eq_self hbegin, trimEnd_append hlast]

/-- A gap at the end makes no word. -/
theorem words_append_gap (hgap : IsGap gap) (cs : List Char) : words (cs ++ gap) = words cs := by
  induction gap generalizing cs with
  | nil => rw [List.append_nil]
  | cons blank gap ih =>
    obtain ⟨hblank, hgap⟩ := List.forall_mem_cons.1 hgap
    have hnone : words gap = words [] := ih hgap []
    rw [words_append_cons hblank, hnone]
    exact List.append_nil _

/-- Nor does a gap at the front. -/
theorem words_gap_append (hgap : IsGap gap) (cs : List Char) : words (gap ++ cs) = words cs := by
  induction gap with
  | nil => rfl
  | cons blank gap ih =>
    obtain ⟨hblank, hgap⟩ := List.forall_mem_cons.1 hgap
    exact (words_append_cons hblank [] (gap ++ cs)).trans (ih hgap)

/-- A gap leaves nothing when white space is taken out. -/
theorem withoutBlanks_append_gap (hgap : IsGap gap) (cs : List Char) :
    withoutBlanks (cs ++ gap) = withoutBlanks cs := by
  have hnone : gap.filter (!isBlank ·) = [] :=
    List.filter_eq_nil_iff.2 fun c hc => by simp [hgap c hc]
  rw [withoutBlanks, List.filter_append, hnone, List.append_nil, withoutBlanks]

/-- Dropping white space does not disturb where a text is cut at a sign. -/
theorem map_withoutBlanks_splitOn {sep : Char} (hsep : isBlank sep = false) (cs : List Char) :
    (cs.splitOn sep).map withoutBlanks = (withoutBlanks cs).splitOn sep := by
  induction cs with
  | nil => simp [withoutBlanks]
  | cons c cs ih =>
    rw [List.splitOn_cons_eq_if_modifyHead]
    -- A separator opens a new part; a blank is dropped on both sides; anything else joins the first
    -- part.
    by_cases hc : c = sep
    · subst hc
      have hkept : withoutBlanks (c :: cs) = c :: withoutBlanks cs := by simp [withoutBlanks, hsep]
      rw [hkept, List.splitOn_cons_eq_if_modifyHead, if_pos (beq_self_eq_true c),
        if_pos (beq_self_eq_true c), List.map_cons, ih]
      rfl
    · obtain ⟨part, parts, hparts⟩ := List.exists_cons_of_ne_nil (List.splitOn_ne_nil sep cs)
      rw [if_neg (by simpa using hc), hparts]
      rw [hparts] at ih
      cases hblank : isBlank c with
      | true =>
        have hdropped : ∀ ds, withoutBlanks (c :: ds) = withoutBlanks ds := by
          simp [withoutBlanks, hblank]
        rw [hdropped, ← ih, List.modifyHead_cons, List.map_cons, hdropped, List.map_cons]
      | false =>
        have hkept : ∀ ds, withoutBlanks (c :: ds) = c :: withoutBlanks ds := by
          simp [withoutBlanks, hblank]
        rw [hkept, List.splitOn_cons_eq_if_modifyHead, if_neg (by simpa using hc), ← ih,
          List.modifyHead_cons, List.map_cons, hkept, List.map_cons, List.modifyHead_cons]

/-- What does not depend on white space at the end can be read off the text without it. -/
theorem eq_of_trimEnd {α : Type} {f : List Char → α}
    (h : ∀ gap, IsGap gap → ∀ cs, f (cs ++ gap) = f cs) (cs : List Char) :
    f (trimEnd cs) = f cs := by
  obtain ⟨gap, hgap, hcs⟩ := exists_trimEnd_append cs
  calc f (trimEnd cs) = f (trimEnd cs ++ gap) := (h gap hgap (trimEnd cs)).symm
    _ = f cs := by rw [← hcs]

/-- Trimming does not change the words. -/
theorem words_trimEnd (cs : List Char) : words (trimEnd cs) = words cs :=
  eq_of_trimEnd (fun _ hgap => words_append_gap hgap) cs

/-- It does not change what is left without white space. -/
theorem withoutBlanks_trimEnd (cs : List Char) : withoutBlanks (trimEnd cs) = withoutBlanks cs :=
  eq_of_trimEnd (fun _ hgap => withoutBlanks_append_gap hgap) cs

/-- Trimming the end first makes no difference. -/
theorem trim_trimEnd (cs : List Char) : trim (trimEnd cs) = trim cs :=
  eq_of_trimEnd (fun _ hgap => trim_append_gap hgap) cs

end Text

end CykChart
