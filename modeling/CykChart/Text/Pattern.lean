/-!
# Patterns

A pattern is a row of pieces, of which some in the middle capture what they match. A piece matches
at a place of a text in several ways, and a matcher that backtracks takes the first way on which the
rest of the pattern matches too: a repeated piece tries its longest stretch first and then shorter
ones. Patterns split a text at their matches, from left to right, each search beginning where the
match before it ended.

A place knows what stands before it, because a line can begin only at the beginning of the text or
after a line feed, wherever the search began.

## Main definitions

- `Place`, `Piece`, `Pattern`: what is matched where.
- `Pattern.match?`: the first way to match at a place.
- `Pattern.find?`: the next match after a place.
- `Pattern.split`: the text between matches, with what they capture.
-/

namespace CykChart.Text

/-- A place in a text. -/
structure Place where
  /-- What stands before it, nearest first. -/
  behind : List Char
  /-- What stands after it. -/
  ahead : List Char
  deriving DecidableEq, Repr

namespace Place

/-- The beginning of a text. -/
def first (text : List Char) : Place := ⟨[], text⟩

/-- Whether a line begins at a place. -/
def atLineStart (place : Place) : Bool :=
  place.behind.isEmpty || place.behind.head? == some '\n'

/-- Whether a line ends at a place. -/
def atLineEnd (place : Place) : Bool :=
  place.ahead.isEmpty || place.ahead.head? == some '\n'

/-- A place is reached from another by reading a text. -/
def Reaches (place : Place) (taken : List Char) (last : Place) : Prop :=
  place.ahead = taken ++ last.ahead ∧ last.behind = taken.reverse ++ place.behind

variable {place next last : Place} {taken more : List Char}

theorem reaches_nil_iff : place.Reaches [] last ↔ last = place := by
  obtain ⟨behind, ahead⟩ := place
  obtain ⟨lastBehind, lastAhead⟩ := last
  simp [Reaches, eq_comm, and_comm]

theorem reaches_cons_iff {c : Char} :
    place.Reaches (c :: taken) last ↔
      ∃ rest, place.ahead = c :: rest ∧ Reaches ⟨c :: place.behind, rest⟩ taken last := by
  constructor
  · rintro ⟨hahead, hbehind⟩
    exact ⟨taken ++ last.ahead, hahead, rfl, by simp [hbehind]⟩
  · rintro ⟨rest, hahead, hrest, hbehind⟩
    refine ⟨?_, by simpa using hbehind⟩
    rw [hahead, List.cons_append, ← hrest]

theorem Reaches.trans (h : place.Reaches taken next) (hnext : next.Reaches more last) :
    place.Reaches (taken ++ more) last := by
  refine ⟨?_, ?_⟩
  · rw [h.1, hnext.1, List.append_assoc]
  · rw [hnext.2, h.2, List.reverse_append, List.append_assoc]

/-- Two texts in a row are read one after the other. -/
theorem Reaches.exists_between (h : place.Reaches (taken ++ more) last) :
    ∃ between, place.Reaches taken between ∧ between.Reaches more last := by
  refine ⟨⟨taken.reverse ++ place.behind, more ++ last.ahead⟩, ⟨?_, rfl⟩, rfl, ?_⟩
  · rw [h.1, List.append_assoc]
  · rw [h.2, List.reverse_append, List.append_assoc]

end Place

/-- A piece of a pattern. -/
inductive Piece where
  /-- The beginning of a line. -/
  | lineStart
  /-- The end of a line. -/
  | lineEnd
  /-- One character of a class. -/
  | one (isMember : Char → Bool)
  /-- Any number of characters of a class, as many as the rest of the pattern allows. -/
  | many (isMember : Char → Bool)

namespace Piece

/-- The stretches of a class at a place, the longest first, each with the place where it ends. -/
def stretches (isMember : Char → Bool) (behind : List Char) :
    List Char → List (List Char × Place)
  | [] => [([], ⟨behind, []⟩)]
  | c :: rest =>
    if isMember c then
      (stretches isMember (c :: behind) rest).map (fun (taken, last) => (c :: taken, last))
        ++ [([], ⟨behind, c :: rest⟩)]
    else [([], ⟨behind, c :: rest⟩)]

/-- The ways in which a piece matches at a place, in the order in which they are tried: what is
matched and the place where it ends. -/
def ways : Piece → Place → List (List Char × Place)
  | lineStart, place => if place.atLineStart then [([], place)] else []
  | lineEnd, place => if place.atLineEnd then [([], place)] else []
  | one isMember, ⟨behind, c :: rest⟩ => if isMember c then [([c], ⟨c :: behind, rest⟩)] else []
  | one _, ⟨_, []⟩ => []
  | many isMember, place => stretches isMember place.behind place.ahead

/-- The ways in which a row of pieces matches at a place. -/
def allWays : List Piece → Place → List (List Char × Place)
  | [], place => [([], place)]
  | piece :: pieces, place =>
    (piece.ways place).flatMap fun (taken, next) =>
      (allWays pieces next).map fun (more, last) => (taken ++ more, last)

/-- Whether a piece matches no empty text. -/
def consumes : Piece → Bool
  | one _ => true
  | _ => false

/-- The texts that a piece accepts at a place. -/
def Accepts : Piece → Place → List Char → Prop
  | lineStart, place, taken => place.atLineStart = true ∧ taken = []
  | lineEnd, place, taken => place.atLineEnd = true ∧ taken = []
  | one isMember, _, taken => ∃ c, isMember c = true ∧ taken = [c]
  | many isMember, _, taken => ∀ c ∈ taken, isMember c = true

variable {place last : Place} {taken : List Char}

theorem mem_stretches {isMember : Char → Bool} {behind ahead : List Char} :
    (taken, last) ∈ stretches isMember behind ahead ↔
      (∀ c ∈ taken, isMember c = true) ∧ Place.Reaches ⟨behind, ahead⟩ taken last := by
  -- By induction on the text: a stretch is empty, or it takes the first character and is a stretch
  -- of the rest.
  induction ahead generalizing behind taken with
  | nil =>
    cases taken with
    | nil => simp [stretches, Place.reaches_nil_iff]
    | cons c rest => simp [stretches, Place.reaches_cons_iff]
  | cons c rest ih =>
    cases taken with
    | nil =>
      rw [Place.reaches_nil_iff, stretches]
      split <;> simp
    | cons d more =>
      rw [Place.reaches_cons_iff, stretches]
      split
      next hc =>
        simp only [List.mem_append, List.mem_map, List.mem_singleton, List.forall_mem_cons,
          Prod.exists, Prod.mk.injEq, List.cons.injEq]
        constructor
        · rintro (⟨_, _, hmem, ⟨rfl, rfl⟩, rfl⟩ | ⟨hnil, -⟩)
          · obtain ⟨hall, hreach⟩ := ih.1 hmem
            exact ⟨⟨hc, hall⟩, rest, ⟨rfl, rfl⟩, hreach⟩
          · exact absurd hnil (by simp)
        · rintro ⟨⟨-, hall⟩, tail, ⟨rfl, rfl⟩, hreach⟩
          exact .inl ⟨more, last, ih.2 ⟨hall, hreach⟩, ⟨rfl, rfl⟩, rfl⟩
      next hc =>
        constructor
        · intro h
          exact absurd (Prod.mk.inj (List.mem_singleton.1 h)).1 (by simp)
        · rintro ⟨hall, tail, heq, -⟩
          obtain ⟨rfl, rfl⟩ := List.cons.inj heq
          exact absurd (hall c List.mem_cons_self) hc

/-- A piece matches the texts that it accepts, and the match ends behind them. -/
theorem mem_ways {piece : Piece} :
    (taken, last) ∈ piece.ways place ↔ piece.Accepts place taken ∧ place.Reaches taken last := by
  cases piece with
  | lineStart =>
    rw [ways, Accepts]
    split
    next hstart =>
      rw [List.mem_singleton, Prod.mk.injEq]
      constructor
      · rintro ⟨rfl, rfl⟩
        exact ⟨⟨hstart, rfl⟩, Place.reaches_nil_iff.2 rfl⟩
      · rintro ⟨⟨-, rfl⟩, hreach⟩
        exact ⟨rfl, Place.reaches_nil_iff.1 hreach⟩
    next hstart => simp [hstart]
  | lineEnd =>
    rw [ways, Accepts]
    split
    next hend =>
      rw [List.mem_singleton, Prod.mk.injEq]
      constructor
      · rintro ⟨rfl, rfl⟩
        exact ⟨⟨hend, rfl⟩, Place.reaches_nil_iff.2 rfl⟩
      · rintro ⟨⟨-, rfl⟩, hreach⟩
        exact ⟨rfl, Place.reaches_nil_iff.1 hreach⟩
    next hend => simp [hend]
  | one isMember =>
    -- Nothing is left to take at the end of the text.
    obtain ⟨behind, _ | ⟨c, rest⟩⟩ := place
    · constructor
      · intro h
        exact absurd h List.not_mem_nil
      · rintro ⟨⟨d, -, rfl⟩, hreach⟩
        obtain ⟨tail, hahead, -⟩ := Place.reaches_cons_iff.1 hreach
        exact absurd hahead (by simp)
    · rw [ways, Accepts]
      constructor
      · intro h
        split at h
        next hc =>
          obtain ⟨rfl, rfl⟩ := Prod.mk.inj (List.mem_singleton.1 h)
          exact ⟨⟨c, hc, rfl⟩, Place.reaches_cons_iff.2 ⟨rest, rfl, Place.reaches_nil_iff.2 rfl⟩⟩
        next => exact absurd h List.not_mem_nil
      · rintro ⟨⟨d, hd, rfl⟩, hreach⟩
        obtain ⟨tail, hahead, hlast⟩ := Place.reaches_cons_iff.1 hreach
        obtain ⟨rfl, rfl⟩ := List.cons.inj hahead
        rw [if_pos hd, Place.reaches_nil_iff.1 hlast]
        exact List.mem_singleton_self _
  | many isMember => exact mem_stretches

theorem mem_allWays_cons {piece : Piece} {pieces : List Piece} :
    (taken, last) ∈ allWays (piece :: pieces) place ↔
      ∃ first next more, piece.Accepts place first ∧ place.Reaches first next ∧
        (more, last) ∈ allWays pieces next ∧ taken = first ++ more := by
  simp only [allWays, List.mem_flatMap, List.mem_map, Prod.exists, mem_ways, Prod.mk.injEq]
  constructor
  · rintro ⟨first, next, ⟨haccepts, hreach⟩, more, _, hmore, rfl, rfl⟩
    exact ⟨first, next, more, haccepts, hreach, hmore, rfl⟩
  · rintro ⟨first, next, more, haccepts, hreach, hmore, rfl⟩
    exact ⟨first, next, ⟨haccepts, hreach⟩, more, last, hmore, rfl, rfl⟩

theorem mem_allWays_nil : (taken, last) ∈ allWays [] place ↔ taken = [] ∧ last = place := by
  rw [allWays, List.mem_singleton, Prod.mk.injEq]

theorem reaches_of_mem_allWays {pieces : List Piece} (h : (taken, last) ∈ allWays pieces place) :
    place.Reaches taken last := by
  -- By induction on the pieces, each of which begins where the one before it ended.
  induction pieces generalizing place taken with
  | nil =>
    obtain ⟨rfl, rfl⟩ := mem_allWays_nil.1 h
    exact Place.reaches_nil_iff.2 rfl
  | cons piece pieces ih =>
    obtain ⟨first, next, more, -, hreach, hmore, rfl⟩ := mem_allWays_cons.1 h
    exact hreach.trans (ih hmore)

theorem ne_nil_of_mem_allWays {pieces : List Piece} (h : (taken, last) ∈ allWays pieces place)
    (hconsumes : pieces.any consumes = true) : taken ≠ [] := by
  induction pieces generalizing place taken with
  | nil => exact absurd hconsumes (by simp)
  | cons piece pieces ih =>
    obtain ⟨first, next, more, haccepts, -, hmore, rfl⟩ := mem_allWays_cons.1 h
    -- One piece that takes a character is enough.
    rw [List.any_cons, Bool.or_eq_true] at hconsumes
    rcases hconsumes with hfirst | hrest
    · cases piece with
      | one isMember =>
        obtain ⟨c, -, rfl⟩ := haccepts
        simp
      | lineStart => exact absurd hfirst (by simp [consumes])
      | lineEnd => exact absurd hfirst (by simp [consumes])
      | many isMember => exact absurd hfirst (by simp [consumes])
    · have hne : more ≠ [] := ih hmore hrest
      simp [hne]

end Piece

/-- A pattern with one captured part. -/
structure Pattern where
  /-- The pieces before the captured part. -/
  before : List Piece
  /-- The pieces that capture what they match. -/
  captured : List Piece
  /-- The pieces after the captured part. -/
  after : List Piece
  /-- The pattern matches no empty text. -/
  advances : (before ++ captured ++ after).any Piece.consumes = true

namespace Pattern

/-- The ways in which a pattern matches at a place: what is captured and the place where the match
ends. -/
def ways (pattern : Pattern) (place : Place) : List (List Char × Place) :=
  (Piece.allWays pattern.before place).flatMap fun (_, entry) =>
    (Piece.allWays pattern.captured entry).flatMap fun (captured, exit) =>
      (Piece.allWays pattern.after exit).map fun (_, last) => (captured, last)

/-- The first way in which a pattern matches at a place. -/
def match? (pattern : Pattern) (place : Place) : Option (List Char × Place) :=
  (pattern.ways place).head?

/-- A match that was searched for. -/
structure Hit where
  /-- What the search passed over. -/
  skipped : List Char
  /-- What the match captured. -/
  captured : List Char
  /-- The place where the match ends. -/
  last : Place
  deriving DecidableEq, Repr

/-- The next match after what stands behind. -/
def findFrom? (pattern : Pattern) (behind : List Char) : List Char → Option Hit
  | [] => (pattern.match? ⟨behind, []⟩).map fun (captured, last) => ⟨[], captured, last⟩
  | c :: rest =>
    match pattern.match? ⟨behind, c :: rest⟩ with
    | some (captured, last) => some ⟨[], captured, last⟩
    | none =>
      (findFrom? pattern (c :: behind) rest).map fun hit => { hit with skipped := c :: hit.skipped }

/-- The next match after a place. -/
def find? (pattern : Pattern) (place : Place) : Option Hit :=
  pattern.findFrom? place.behind place.ahead

theorem mem_ways {pattern : Pattern} {place last : Place} {captured : List Char} :
    (captured, last) ∈ pattern.ways place ↔
      ∃ lead entry exit trail, (lead, entry) ∈ Piece.allWays pattern.before place ∧
        (captured, exit) ∈ Piece.allWays pattern.captured entry ∧
        (trail, last) ∈ Piece.allWays pattern.after exit := by
  simp only [ways, List.mem_flatMap, List.mem_map, Prod.exists, Prod.mk.injEq]
  constructor
  · rintro ⟨lead, entry, hlead, _, exit, hcaptured, trail, _, htrail, rfl, rfl⟩
    exact ⟨lead, entry, exit, trail, hlead, hcaptured, htrail⟩
  · rintro ⟨lead, entry, exit, trail, hlead, hcaptured, htrail⟩
    exact ⟨lead, entry, hlead, captured, exit, hcaptured, trail, last, htrail, rfl, rfl⟩

/-- A match leaves less of the text than there was. -/
theorem length_lt_of_mem_ways {pattern : Pattern} {place last : Place} {captured : List Char}
    (h : (captured, last) ∈ pattern.ways place) : last.ahead.length < place.ahead.length := by
  obtain ⟨lead, entry, exit, trail, hlead, hcaptured, htrail⟩ := mem_ways.1 h
  have hreach : place.Reaches (lead ++ captured ++ trail) last :=
    ((Piece.reaches_of_mem_allWays hlead).trans (Piece.reaches_of_mem_allWays hcaptured)).trans
      (Piece.reaches_of_mem_allWays htrail)
  -- Some piece takes a character, in whichever part of the pattern it stands.
  have hne : lead ++ captured ++ trail ≠ [] := by
    have hadvances := pattern.advances
    rw [List.any_append, List.any_append, Bool.or_eq_true, Bool.or_eq_true] at hadvances
    rcases hadvances with (hconsumes | hconsumes) | hconsumes
    · simp [Piece.ne_nil_of_mem_allWays hlead hconsumes]
    · simp [Piece.ne_nil_of_mem_allWays hcaptured hconsumes]
    · simp [Piece.ne_nil_of_mem_allWays htrail hconsumes]
  have hpos := List.length_pos_iff.2 hne
  have hlength := congrArg List.length hreach.1
  rw [List.length_append] at hlength
  omega

theorem length_lt_of_findFrom? {pattern : Pattern} {behind ahead : List Char} {hit : Hit}
    (h : pattern.findFrom? behind ahead = some hit) :
    hit.last.ahead.length < ahead.length := by
  induction ahead generalizing behind hit with
  | nil =>
    obtain ⟨⟨captured, last⟩, hmatch, rfl⟩ := Option.map_eq_some_iff.1 h
    exact length_lt_of_mem_ways (List.mem_of_head? hmatch)
  | cons c rest ih =>
    rw [findFrom?] at h
    split at h
    next captured last hmatch =>
      rw [← Option.some.inj h]
      exact length_lt_of_mem_ways (List.mem_of_head? hmatch)
    -- No match starts here, so the hit lies in the shorter rest.
    next =>
      obtain ⟨later, hlater, rfl⟩ := Option.map_eq_some_iff.1 h
      have hshorter := ih hlater
      exact Nat.lt_succ_of_lt hshorter

/-- The text up to the next match after a place, and what each match from there on captures, with
the text up to the match after it. -/
def split (pattern : Pattern) (place : Place) : List Char × List (List Char × List Char) :=
  match _h : pattern.find? place with
  | none => (place.ahead, [])
  | some hit =>
    let (between, later) := pattern.split hit.last
    (hit.skipped, (hit.captured, between) :: later)
termination_by place.ahead.length
decreasing_by exact length_lt_of_findFrom? _h

variable {pattern : Pattern} {behind rest captured : List Char} {last : Place}

theorem find?_of_match {place : Place} (h : pattern.match? place = some (captured, last)) :
    pattern.find? place = some ⟨[], captured, last⟩ := by
  obtain ⟨behind, _ | ⟨c, rest⟩⟩ := place
  · rw [find?, findFrom?, h]
    rfl
  · rw [find?, findFrom?, h]

/-- A match at a place cuts the text there. -/
theorem split_of_match {place : Place} (h : pattern.match? place = some (captured, last)) :
    pattern.split place =
      ([], (captured, (pattern.split last).1) :: (pattern.split last).2) := by
  rw [split, find?_of_match h]

/-- A place without match belongs to the text before the next match. -/
theorem split_of_no_match {c : Char} (h : pattern.match? ⟨behind, c :: rest⟩ = none) :
    pattern.split ⟨behind, c :: rest⟩ =
      (c :: (pattern.split ⟨c :: behind, rest⟩).1, (pattern.split ⟨c :: behind, rest⟩).2) := by
  have hfind : pattern.find? ⟨behind, c :: rest⟩ =
      (pattern.find? ⟨c :: behind, rest⟩).map fun hit =>
        { hit with skipped := c :: hit.skipped } := by
    rw [find?, findFrom?, h]
    rfl
  rw [split, split, hfind]
  cases pattern.find? ⟨c :: behind, rest⟩ <;> rfl

theorem split_of_no_match_nil (h : pattern.match? ⟨behind, []⟩ = none) :
    pattern.split ⟨behind, []⟩ = ([], []) := by
  have hfind : pattern.find? ⟨behind, []⟩ = none := by
    rw [find?, findFrom?, h]
    rfl
  rw [split, hfind]

end Pattern

end CykChart.Text
