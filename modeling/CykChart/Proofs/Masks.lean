import CykChart.BitGrammar
import CykChart.Proofs.Building
import Mathlib.Data.Int.Bitwise
import Mathlib.Data.List.Basic
import Mathlib.Data.Nat.Bitwise

/-!
# Masks as sets of nonterminals

A mask stands for the nonterminals whose bits are set in it. The operations on masks are read
through that membership: the mask of a terminal holds the heads of its rules, and the combination of
two masks holds the heads of the rules whose two symbols lie in the one and in the other. Which
number a nonterminal has does not show.

## Main definitions

- `BitGrammar.has`: whether a mask holds a nonterminal.
- `Grammar.bits`: a grammar over masks, given its start symbol.

## Main results

- `BitGrammar.mem_symbols_iff`: a mask reads back as the nonterminals that it holds.
- `BitGrammar.testBit_maskIn_symbols_iff`: the bits of what an integer reads back as.
- `Grammar.has_heads_iff`, `Grammar.WellFormed.has_combine_iff`: the rules over masks are those of
  the grammar.
-/

namespace CykChart

/-! ## Bits -/

/-- The bit of a symbol is set at its place only. -/
theorem testBit_bitIn_iff {symbols : List Char} {c : Char} {i : Nat} :
    (bitIn symbols c).testBit i = true ↔ symbols.idxOf c = i := by
  rw [bitIn, Nat.one_shiftLeft, Nat.testBit_two_pow, decide_eq_true_eq]

/-- An integer that is not negative shares with a mask what a mask would. -/
@[simp]
theorem commonBits_natCast (bits mask : Nat) : commonBits bits mask = bits &&& mask := rfl

/-- An integer shares a bit with a mask when both have it. -/
theorem testBit_commonBits (bits : Int) (mask i : Nat) :
    (commonBits bits mask).testBit i = (bits.testBit i && mask.testBit i) := by
  cases bits with
  | ofNat bits => exact Nat.testBit_and bits mask i
  | negSucc bits =>
    rw [commonBits, Nat.testBit_xor, Nat.testBit_and, Int.testBit]
    cases bits.testBit i <;> cases mask.testBit i <;> rfl

/-- An integer meets the bit of a symbol when it has this bit. -/
theorem commonBits_bitIn_ne_zero_iff {bits : Int} {symbols : List Char} {c : Char} :
    commonBits bits (bitIn symbols c) ≠ 0 ↔ bits.testBit (symbols.idxOf c) = true := by
  constructor
  · intro h
    obtain ⟨i, hi⟩ := Nat.exists_testBit_of_ne_zero h
    rw [testBit_commonBits, Bool.and_eq_true, testBit_bitIn_iff] at hi
    exact hi.2 ▸ hi.1
  · intro h hzero
    have hbit := testBit_commonBits bits (bitIn symbols c) (symbols.idxOf c)
    rw [hzero, h, testBit_bitIn_iff.2 rfl] at hbit
    exact absurd hbit (by simp)

/-- A mask meets the bit of a symbol when it has a bit at its place. -/
theorem and_bitIn_ne_zero_iff {mask : Nat} {symbols : List Char} {c : Char} :
    mask &&& bitIn symbols c ≠ 0 ↔ mask.testBit (symbols.idxOf c) = true := by
  rw [← commonBits_natCast, commonBits_bitIn_ne_zero_iff]
  rfl

/-- A union of masks has the bits that one of them has. -/
theorem testBit_foldl_or {α : Type} (f : α → Nat) (as : List α) (start i : Nat) :
    (as.foldl (fun mask a => mask ||| f a) start).testBit i = true ↔
      start.testBit i = true ∨ ∃ a ∈ as, (f a).testBit i = true := by
  induction as generalizing start with
  | nil => simp
  | cons a rest ih => rw [List.foldl_cons, ih, Nat.testBit_or]; simp [or_assoc]

/-- The lowest bit of an integer tells whether it is odd. -/
theorem testBit_zero_iff_odd {bits : Int} : bits.testBit 0 = true ↔ bits % 2 = 1 := by
  cases bits with
  | ofNat bits =>
    rw [Int.testBit, Nat.testBit_zero, decide_eq_true_eq, Int.ofNat_eq_natCast]
    omega
  | negSucc bits =>
    rw [Int.testBit, Nat.testBit_zero, Bool.not_eq_true', decide_eq_false_iff_not, Int.negSucc_eq]
    omega

/-- The other bits of an integer are those of its half. -/
theorem testBit_half (bits : Int) (i : Nat) : (bits / 2).testBit i = bits.testBit (i + 1) := by
  cases bits with
  | ofNat bits =>
    exact (Nat.testBit_succ bits i).symm
  | negSucc bits =>
    have hhalf : Int.negSucc bits / 2 = Int.negSucc (bits / 2) := by omega
    rw [hhalf, Int.testBit, Int.testBit, Nat.testBit_succ]

/-- The symbols selected by an integer are those whose places are bits of it. -/
theorem mem_selectBits_iff_testBit {symbols : List Char} (hnodup : symbols.Nodup) {bits : Int}
    {c : Char} :
    c ∈ selectBits symbols bits ↔ c ∈ symbols ∧ bits.testBit (symbols.idxOf c) = true := by
  -- By induction on the symbols, with half the integer for the rest of them.
  induction symbols generalizing bits with
  | nil => simp [selectBits]
  | cons symbol rest ih =>
    obtain ⟨hnew, hrest⟩ := List.nodup_cons.1 hnodup
    rw [selectBits]
    by_cases hc : c = symbol
    · -- The first symbol is selected by the lowest bit, and by no other.
      subst hc
      have hskip : c ∉ selectBits rest (bits / 2) := fun h => hnew ((ih hrest).1 h).1
      rw [List.idxOf_cons_self, testBit_zero_iff_odd]
      split <;> simp_all
    · -- Any other place is one further on, and its bit is one lower in the half.
      have hidx : (symbol :: rest).idxOf c = rest.idxOf c + 1 :=
        List.idxOf_cons_ne rest (Ne.symm hc)
      have hmem : c ∈ selectBits rest (bits / 2) ↔
          c ∈ symbol :: rest ∧ bits.testBit ((symbol :: rest).idxOf c) = true := by
        rw [ih hrest, hidx, testBit_half, List.mem_cons]
        simp [hc]
      split
      · rw [List.mem_cons, hmem]
        simp [hc]
      · exact hmem

/-- The symbols selected by a mask are those whose places are bits of it. -/
theorem mem_selectBits_iff {symbols : List Char} (hnodup : symbols.Nodup) {mask : Nat} {c : Char} :
    c ∈ selectBits symbols mask ↔ c ∈ symbols ∧ mask.testBit (symbols.idxOf c) = true :=
  mem_selectBits_iff_testBit hnodup

/-- A mask built from members holds exactly these. -/
theorem testBit_maskIn_iff {symbols members : List Char} {c : Char}
    (hmembers : members ⊆ symbols) :
    (Grammar.maskIn symbols members).testBit (symbols.idxOf c) = true ↔ c ∈ members := by
  rw [Grammar.maskIn, testBit_foldl_or]
  simp only [testBit_bitIn_iff, Nat.zero_testBit, Bool.false_eq_true, false_or]
  constructor
  · rintro ⟨member, hmember, hidx⟩
    exact (List.idxOf_inj (hmembers hmember)).1 hidx ▸ hmember
  · intro h
    exact ⟨c, h, rfl⟩

namespace BitGrammar

variable {g : BitGrammar}

/-- Whether a mask holds a nonterminal. -/
def has (g : BitGrammar) (mask : Nat) (symbol : Char) : Bool :=
  mask.testBit (g.nonterminals.idxOf symbol)

/-- An integer reads back as the nonterminals whose numbers are bits of it. -/
theorem mem_symbols_iff_testBit (hnodup : g.nonterminals.Nodup) {bits : Int} {c : Char} :
    c ∈ g.symbols bits ↔ c ∈ g.nonterminals ∧ bits.testBit (g.nonterminals.idxOf c) = true :=
  mem_selectBits_iff_testBit hnodup

/-- The symbols of an integer have between them the bits of it that number a nonterminal. -/
theorem testBit_maskIn_symbols_iff (hnodup : g.nonterminals.Nodup) {bits : Int} {i : Nat} :
    (Grammar.maskIn g.nonterminals (g.symbols bits)).testBit i = true ↔
      i < g.nonterminals.length ∧ bits.testBit i = true := by
  rw [Grammar.maskIn, testBit_foldl_or]
  simp only [testBit_bitIn_iff, Nat.zero_testBit, Bool.false_eq_true, false_or]
  constructor
  · rintro ⟨c, hc, rfl⟩
    obtain ⟨hmem, hbit⟩ := (mem_symbols_iff_testBit hnodup).1 hc
    exact ⟨List.idxOf_lt_length_iff.2 hmem, hbit⟩
  · rintro ⟨hlength, hi⟩
    -- The bit is that of the nonterminal with this number.
    have hidx : g.nonterminals.idxOf g.nonterminals[i] = i := hnodup.idxOf_getElem i hlength
    refine ⟨g.nonterminals[i], (mem_symbols_iff_testBit hnodup).2 ⟨List.getElem_mem hlength, ?_⟩,
      hidx⟩
    rwa [hidx]

/-- A mask reads back as the nonterminals that it holds. -/
theorem mem_symbols_iff (hnodup : g.nonterminals.Nodup) {mask : Nat} {c : Char} :
    c ∈ g.symbols mask ↔ c ∈ g.nonterminals ∧ g.has mask c = true :=
  mem_selectBits_iff hnodup

/-- A mask meets the bit of a nonterminal when it has it. -/
theorem and_bit_ne_zero_iff {mask : Nat} {c : Char} :
    mask &&& g.bit c ≠ 0 ↔ g.has mask c = true :=
  and_bitIn_ne_zero_iff

/-- The empty mask has no nonterminals. -/
@[simp]
theorem has_zero (c : Char) : g.has 0 c = false :=
  Nat.zero_testBit _

/-- A union holds what one of its parts holds. -/
theorem has_foldl_or_iff {α : Type} {f : α → Nat} {as : List α} {c : Char} :
    g.has (as.foldl (fun mask a => mask ||| f a) 0) c = true ↔ ∃ a ∈ as, g.has (f a) c = true := by
  simp [has, testBit_foldl_or]

/-- What a rule adds to the combination of two masks: its head if it meets both of them. -/
def contribution (left right : Int) (rule : BitRule) : Nat :=
  if commonBits left rule.left ≠ 0 ∧ commonBits right rule.right ≠ 0 then rule.head else 0

/-- A combination is a union, to which a rule that does not apply adds the empty mask. -/
theorem combine_eq_foldl (g : BitGrammar) (left right : Int) :
    g.combine left right =
      g.binary.foldl (fun found rule => found ||| contribution left right rule) 0 := by
  have hstep : (fun (found : Nat) (rule : BitRule) =>
      if commonBits left rule.left ≠ 0 ∧ commonBits right rule.right ≠ 0 then found ||| rule.head
      else found) =
      fun found rule => found ||| contribution left right rule := by
    funext found rule
    rw [contribution]
    split <;> simp
  rw [combine, hstep]

/-- What a combination holds comes from a rule that meets both masks. -/
theorem has_combine_iff {left right : Int} {c : Char} :
    g.has (g.combine left right) c = true ↔
      ∃ rule ∈ g.binary, commonBits left rule.left ≠ 0 ∧ commonBits right rule.right ≠ 0 ∧
        g.has rule.head c = true := by
  rw [combine_eq_foldl, has_foldl_or_iff]
  simp only [contribution]
  constructor
  · rintro ⟨rule, hrule, h⟩
    split at h
    next hmeets => exact ⟨rule, hrule, hmeets.1, hmeets.2, h⟩
    next => exact absurd h (by simp)
  · rintro ⟨rule, hrule, hleft, hright, h⟩
    refine ⟨rule, hrule, ?_⟩
    rw [if_pos ⟨hleft, hright⟩]
    exact h

end BitGrammar

namespace Grammar

variable {g : Grammar} {start c : Char}

/-! ## The rules over masks -/

/-- A grammar over masks, given its start symbol. -/
def bits (g : Grammar) (start : Char) : BitGrammar where
  nonterminals := sortBy symbolLe g.nonterminals
  terminals := g.terminals
  start := start
  unary := g.unaryMasks (sortBy symbolLe g.nonterminals)
  binary := g.bitRules (sortBy symbolLe g.nonterminals)

/-- A grammar without rules is not ready, whether or not its start symbol is set. -/
theorem toBits_of_noRules (hrules : g.rules = []) : g.toBits = .error .noRules := by
  simp [toBits, hrules]

/-- A grammar with rules is not ready as long as its start symbol is not set. -/
theorem toBits_of_noStart (hrules : g.rules ≠ []) (hstart : g.start = none) :
    g.toBits = .error .noStart := by
  obtain ⟨rule, rest, hcons⟩ := List.exists_cons_of_ne_nil hrules
  simp [toBits, hcons, hstart]

/-- A grammar with rules and a start symbol is ready. -/
theorem toBits_eq_ok (hrules : g.rules ≠ []) (hstart : g.start = some start) :
    g.toBits = .ok (g.bits start) := by
  obtain ⟨rule, rest, hcons⟩ := List.exists_cons_of_ne_nil hrules
  simp only [toBits, hcons, hstart, bits]

/-- A grammar that has masks is ready, and they are its masks. -/
theorem toBits_eq_ok_iff {c : BitGrammar} :
    g.toBits = .ok c ↔ ∃ start, g.rules ≠ [] ∧ g.start = some start ∧ c = g.bits start := by
  constructor
  · intro hc
    -- Compiling asks for rules first and for a start symbol next.
    have hrules : g.rules ≠ [] := by
      intro hnil
      exact absurd (hc.symm.trans (toBits_of_noRules hnil)) (by simp)
    cases hstart : g.start with
    | none => exact absurd (hc.symm.trans (toBits_of_noStart hrules hstart)) (by simp)
    | some start =>
      exact ⟨start, hrules, rfl, Except.ok.inj (hc.symm.trans (toBits_eq_ok hrules hstart))⟩
  · rintro ⟨start, hrules, hstart, rfl⟩
    exact toBits_eq_ok hrules hstart

/-- No nonterminal is numbered twice. -/
theorem WellFormed.bits_nodup (hg : g.WellFormed) : (g.bits start).nonterminals.Nodup :=
  (sortBy_perm symbolLe g.nonterminals).nodup_iff.2 hg.nonterminals_nodup

/-- The nonterminals that are numbered are those that are declared. -/
theorem mem_bits_nonterminals : c ∈ (g.bits start).nonterminals ↔ c ∈ g.nonterminals :=
  mem_sortBy

/-- A terminal has the declared heads whose rules have it as body. -/
theorem mem_headsOf {terminal : Char} :
    c ∈ g.headsOf terminal ↔ c ∈ g.nonterminals ∧ ⟨c, .terminal terminal⟩ ∈ g.rules := by
  simp [headsOf]

/-- An entry is looked up among those that a function makes of symbols, if the symbol is one of
them. -/
theorem lookup_filterMap (f : Char → Option Nat) (symbols : List Char) (c : Char) :
    (symbols.filterMap fun symbol => (f symbol).map (symbol, ·)).lookup c =
      if c ∈ symbols then f c else none := by
  induction symbols with
  | nil => rfl
  | cons symbol rest ih =>
    by_cases hc : c = symbol
    · subst hc
      cases hf : f c <;> simp [hf, ih]
    · cases hf : f symbol <;> simp [hf, ih, hc, List.lookup_cons, beq_false_of_ne hc]

/-- The entry of a terminal is the mask of its heads, and missing when there are none. -/
theorem lookup_unaryMasks (g : Grammar) (numbering : List Char) {terminal : Char}
    (hterminal : terminal ∈ g.terminals) :
    ((g.unaryMasks numbering).lookup terminal).getD 0 =
      maskIn numbering (g.headsOf terminal) := by
  -- Each terminal has one entry at most, under its own name.
  have hentries : g.unaryMasks numbering = (sortBy symbolLe g.terminals).filterMap fun t =>
      (if g.headsOf t = [] then none else some (maskIn numbering (g.headsOf t))).map (t, ·) := by
    unfold unaryMasks
    congr 1
    funext t
    split <;> simp_all
  rw [hentries, lookup_filterMap, if_pos (mem_sortBy.2 hterminal)]
  split
  next hnil => rw [hnil]; rfl
  next => rfl

/-- The mask of a terminal holds the heads of its rules. -/
theorem has_heads_iff {terminal : Char} (hterminal : terminal ∈ g.terminals)
    (hc : c ∈ g.nonterminals) :
    (g.bits start).has ((g.bits start).heads terminal) c = true ↔
      ⟨c, .terminal terminal⟩ ∈ g.rules := by
  have hsub : g.headsOf terminal ⊆ sortBy symbolLe g.nonterminals := fun head hhead =>
    mem_sortBy.2 (mem_headsOf.1 hhead).1
  simp only [BitGrammar.heads, BitGrammar.has, bits]
  rw [lookup_unaryMasks g _ hterminal, testBit_maskIn_iff hsub, mem_headsOf]
  exact and_iff_right hc

/-- A rule over bits is a rule of the grammar with a pair as its body. -/
theorem mem_bitRules_iff {numbering : List Char} {rule : BitRule} :
    rule ∈ g.bitRules numbering ↔
      ∃ head left right, head ∈ g.nonterminals ∧ ⟨head, .pair left right⟩ ∈ g.rules ∧
        rule = ⟨bitIn numbering left, bitIn numbering right, bitIn numbering head⟩ := by
  simp only [bitRules, List.mem_flatMap, List.mem_filterMap, mem_bodies]
  constructor
  · rintro ⟨head, hhead, body, hbody, hrule⟩
    cases body with
    | terminal symbol => exact absurd hrule (by simp)
    | pair left right => exact ⟨head, left, right, hhead, hbody, (Option.some.inj hrule).symm⟩
  · rintro ⟨head, left, right, hhead, hbody, rfl⟩
    exact ⟨head, hhead, .pair left right, hbody, rfl⟩

/-- The bit of a nonterminal stands for it alone. -/
theorem has_bitIn_iff {d : Char} (hd : d ∈ g.nonterminals) :
    (g.bits start).has (bitIn (sortBy symbolLe g.nonterminals) d) c = true ↔ c = d := by
  simp only [BitGrammar.has, bits, testBit_bitIn_iff]
  rw [List.idxOf_inj (mem_sortBy.2 hd), eq_comm]

/-- The combination of two integers holds the heads of the rules whose two bits they have. -/
theorem WellFormed.has_combine_iff_commonBits (hg : g.WellFormed) {left right : Int} :
    (g.bits start).has ((g.bits start).combine left right) c = true ↔
      ∃ b d, ⟨c, .pair b d⟩ ∈ g.rules ∧ commonBits left ((g.bits start).bit b) ≠ 0 ∧
        commonBits right ((g.bits start).bit d) ≠ 0 := by
  rw [BitGrammar.has_combine_iff]
  constructor
  · rintro ⟨rule, hrule, hleft, hright, hhead⟩
    obtain ⟨head, b, d, hmem, hbody, rfl⟩ := mem_bitRules_iff.1 hrule
    -- A bit belongs to one symbol, so the head of the rule is the symbol asked for.
    obtain rfl := (has_bitIn_iff hmem).1 hhead
    exact ⟨b, d, hbody, hleft, hright⟩
  · rintro ⟨b, d, hbody, hleft, hright⟩
    have hmem : c ∈ g.nonterminals := hg.head_mem _ hbody
    exact ⟨_, mem_bitRules_iff.2 ⟨c, b, d, hmem, hbody, rfl⟩, hleft, hright,
      (has_bitIn_iff hmem).2 rfl⟩

/-- The combination of two masks holds the heads of the rules whose two symbols they hold. -/
theorem WellFormed.has_combine_iff (hg : g.WellFormed) {left right : Nat} :
    (g.bits start).has ((g.bits start).combine left right) c = true ↔
      ∃ b d, ⟨c, .pair b d⟩ ∈ g.rules ∧ (g.bits start).has left b = true ∧
        (g.bits start).has right d = true := by
  simp only [hg.has_combine_iff_commonBits, commonBits_natCast, BitGrammar.and_bit_ne_zero_iff]

end Grammar

end CykChart
