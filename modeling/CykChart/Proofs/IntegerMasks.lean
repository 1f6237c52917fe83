import CykChart.Proofs.Decoding

/-!
# Integers as sets of nonterminals

A grammar over masks reads any integer as a set of nonterminals, also one with bits that number no
nonterminal, and a negative one, which has all bits from some place on. What it reads is the residue
of the integer modulo the power of two that has one bit more than there are nonterminals. Unions and
intersections of sets are the bitwise operations on integers, the set of one nonterminal is its bit,
and two sets are combined by the rules, so the combination of a union is the union of the
combinations.

## Main definitions

- `BitGrammar.union?`: the union of the bits of symbols, looked up one by one.
- `Grammar.MasksAreSets`: how integers stand for sets of nonterminals.

## Main results

- `testBit_emod_two_pow`: the bits of a residue.
- `BitGrammar.natCast_maskIn_symbols`: what an integer reads back as adds up to its residue.
- `Grammar.WellFormed.mem_symbols_combine_iff`: two integers are combined by the rules.
- `Grammar.masks_are_sets`: all of this for every reachable grammar that is put over masks.
-/

namespace CykChart

/-! ## Bits of integers -/

/-- A residue modulo a power of two has the bits below it. -/
theorem testBit_emod_two_pow (bits : Int) (k i : Nat) :
    (bits % 2 ^ k).testBit i = (decide (i < k) && bits.testBit i) := by
  cases bits with
  | ofNat bits =>
    have hresidue : Int.ofNat bits % 2 ^ k = Int.ofNat (bits % 2 ^ k) := by simp
    rw [hresidue, Int.testBit, Int.testBit, Nat.testBit_mod_two_pow]
  | negSucc bits =>
    -- Counted down from the power of two, the residue has the bits that the number does not have.
    have hlt : bits % 2 ^ k < 2 ^ k := Nat.mod_lt _ (Nat.two_pow_pos k)
    have hresidue : Int.negSucc bits % 2 ^ k = Int.ofNat (2 ^ k - (bits % 2 ^ k + 1)) := by
      rw [Int.negSucc_emod _ (Int.pow_pos (by decide)), Int.ofNat_eq_natCast, Nat.cast_sub hlt]
      push_cast
      omega
    rw [hresidue, Int.testBit, Int.testBit, Nat.testBit_two_pow_sub_succ hlt,
      Nat.testBit_mod_two_pow]
    cases decide (i < k) <;> simp

/-- The bits that an integer shares with a mask are those of the conjunction. -/
theorem natCast_commonBits (bits : Int) (mask : Nat) :
    (commonBits bits mask : Int) = Int.land bits mask := by
  cases bits with
  | ofNat bits => rfl
  | negSucc bits =>
    have hldiff : mask ^^^ (bits &&& mask) = Nat.ldiff mask bits := by
      refine Nat.eq_of_testBit_eq fun i => ?_
      rw [Nat.testBit_xor, Nat.testBit_and, Nat.testBit_ldiff]
      cases bits.testBit i <;> cases mask.testBit i <;> rfl
    exact congrArg Int.ofNat hldiff

namespace BitGrammar

variable {g : BitGrammar} {bits other : Int} {c : Char} {text : List Char} {bit : Nat}

/-! ## Sets and their bits -/

/-- What an integer reads back as adds up to its residue. -/
theorem natCast_maskIn_symbols (hnodup : g.nonterminals.Nodup) (bits : Int) :
    (Grammar.maskIn g.nonterminals (g.symbols bits) : Int) =
      bits % 2 ^ g.nonterminals.length := by
  -- The residue is not negative, so it can be compared bit by bit as a mask.
  obtain ⟨residue, hresidue⟩ : ∃ residue : Nat, bits % 2 ^ g.nonterminals.length = residue :=
    Int.eq_ofNat_of_zero_le (Int.emod_nonneg _ (pow_ne_zero _ (by decide)))
  rw [hresidue, Nat.cast_inj]
  refine Nat.eq_of_testBit_eq fun i => ?_
  have hbit : residue.testBit i = (decide (i < g.nonterminals.length) && bits.testBit i) := by
    rw [← testBit_emod_two_pow, hresidue]
    rfl
  rw [hbit, Bool.eq_iff_iff, testBit_maskIn_symbols_iff hnodup, Bool.and_eq_true,
    decide_eq_true_iff]

/-- The bitwise or of integers stands for the union of what they stand for. -/
theorem mem_symbols_lor_iff (hnodup : g.nonterminals.Nodup) :
    c ∈ g.symbols (Int.lor bits other) ↔ c ∈ g.symbols bits ∨ c ∈ g.symbols other := by
  simp only [mem_symbols_iff_testBit hnodup, Int.testBit_lor, Bool.or_eq_true]
  exact and_or_left

/-- The bitwise and of integers stands for what both stand for. -/
theorem mem_symbols_land_iff (hnodup : g.nonterminals.Nodup) :
    c ∈ g.symbols (Int.land bits other) ↔ c ∈ g.symbols bits ∧ c ∈ g.symbols other := by
  simp only [mem_symbols_iff_testBit hnodup, Int.testBit_land, Bool.and_eq_true]
  exact and_and_left

/-- The bitwise or of masks is a case of that of integers. -/
theorem mem_symbols_or_iff (hnodup : g.nonterminals.Nodup) {mask mask' : Nat} :
    c ∈ g.symbols (mask ||| mask' : Nat) ↔ c ∈ g.symbols mask ∨ c ∈ g.symbols mask' := by
  have hcast : ((mask ||| mask' : Nat) : Int) = Int.lor mask mask' := rfl
  rw [hcast, mem_symbols_lor_iff hnodup]

/-- An integer holds a nonterminal when it meets its bit. -/
theorem mem_symbols_iff_commonBits (hnodup : g.nonterminals.Nodup) :
    c ∈ g.symbols bits ↔ c ∈ g.nonterminals ∧ commonBits bits (g.bit c) ≠ 0 := by
  rw [mem_symbols_iff_testBit hnodup, bit, commonBits_bitIn_ne_zero_iff]

/-- Masks without foreign bits are equal when they hold the same nonterminals. -/
theorem Fits.ext {mask mask' : Nat} (hfits : g.Fits mask) (hfits' : g.Fits mask')
    (hascending : g.nonterminals.Pairwise (· < ·))
    (hmem : ∀ c, c ∈ g.symbols mask ↔ c ∈ g.symbols mask') : mask = mask' := by
  have hnodup : g.nonterminals.Nodup := hascending.imp Char.ne_of_lt
  have hsymbols : g.symbols mask = g.symbols mask' :=
    eq_of_ascending (hascending.sublist (selectBits_sublist _ _))
      (hascending.sublist (selectBits_sublist _ _)) hmem
  rw [← hfits.maskIn_symbols hnodup, ← hfits'.maskIn_symbols hnodup, hsymbols]

/-- A union of masks without foreign bits has none. -/
theorem Fits.or {mask mask' : Nat} (hfits : g.Fits mask) (hfits' : g.Fits mask') :
    g.Fits (mask ||| mask') := by
  intro i hi
  rw [Nat.testBit_or, Bool.or_eq_true] at hi
  exact hi.elim (hfits i) (hfits' i)

/-! ## Bits looked up -/

/-- A text has a bit when it is a nonterminal. -/
theorem bit?_eq_some_iff :
    g.bit? text = some bit ↔ ∃ symbol ∈ g.nonterminals, text = [symbol] ∧ bit = g.bit symbol := by
  constructor
  · intro h
    unfold bit? at h
    split at h
    next symbol =>
      split at h
      next hmem => exact ⟨symbol, hmem, rfl, (Option.some.inj h).symm⟩
      next => exact absurd h (by simp)
    next => exact absurd h (by simp)
  · rintro ⟨symbol, hmem, rfl, rfl⟩
    exact if_pos hmem

/-- A text has no bit when it is none of the nonterminals. -/
theorem bit?_eq_none_iff : g.bit? text = none ↔ ∀ symbol ∈ g.nonterminals, text ≠ [symbol] := by
  rw [Option.eq_none_iff_forall_ne_some]
  constructor
  · rintro hnone symbol hmem rfl
    exact hnone _ (bit?_eq_some_iff.2 ⟨symbol, hmem, rfl, rfl⟩)
  · intro hforeign bit hbit
    obtain ⟨symbol, hmem, rfl, -⟩ := bit?_eq_some_iff.1 hbit
    exact hforeign symbol hmem rfl

/-- Different nonterminals have different bits. -/
theorem eq_of_bit?_eq_some {text' : List Char} (h : g.bit? text = some bit)
    (h' : g.bit? text' = some bit) : text = text' := by
  obtain ⟨symbol, hmem, rfl, rfl⟩ := bit?_eq_some_iff.1 h
  obtain ⟨symbol', -, rfl, hbit⟩ := bit?_eq_some_iff.1 h'
  rw [(bitIn_inj hmem).1 hbit]

/-- The union of the bits of symbols; none if one of them has no bit. -/
def union? (g : BitGrammar) (symbols : List Char) : Option Nat :=
  symbols.foldlM (fun union symbol => (union ||| ·) <$> g.bit? [symbol]) 0

/-- Nonterminals have a union. -/
theorem union?_eq {symbols : List Char} (h : symbols ⊆ g.nonterminals) :
    g.union? symbols = some (Grammar.maskIn g.nonterminals symbols) := by
  refine foldlM_eq_some (fun symbol hsymbol union => ?_) 0
  rw [bit?_eq_some_iff.2 ⟨symbol, h hsymbol, rfl, rfl⟩]
  rfl

end BitGrammar

namespace Grammar

variable {g : Grammar} {start head : Char} {left right other : Int}

namespace WellFormed

/-! ## Combinations -/

/-- Two integers are combined to the heads of the rules whose two symbols they hold. -/
theorem mem_symbols_combine_iff (hg : g.WellFormed) :
    head ∈ (g.bits start).symbols ((g.bits start).combine left right) ↔
      ∃ first second, .pair first second ∈ g.bodies head ∧
        first ∈ (g.bits start).symbols left ∧ second ∈ (g.bits start).symbols right := by
  rw [BitGrammar.mem_symbols_iff hg.bits_nodup, hg.has_combine_iff_commonBits]
  simp only [BitGrammar.mem_symbols_iff_commonBits hg.bits_nodup, mem_bits_nonterminals, mem_bodies]
  constructor
  -- The symbols of a rule are declared, so a common bit of theirs is membership in a mask.
  · rintro ⟨-, first, second, hrule, hleft, hright⟩
    obtain ⟨hfirst, hsecond⟩ : first ∈ g.nonterminals ∧ second ∈ g.nonterminals :=
      hg.body_mem _ hrule
    exact ⟨first, second, hrule, ⟨hfirst, hleft⟩, hsecond, hright⟩
  · rintro ⟨first, second, hrule, ⟨-, hleft⟩, -, hright⟩
    exact ⟨hg.head_mem _ hrule, first, second, hrule, hleft, hright⟩

/-- A combination is a union of two when its pairs of symbols are those of the two. -/
theorem combine_eq_or {left' right' left'' right'' : Int} (hg : g.WellFormed)
    (hpairs : ∀ first second,
      first ∈ (g.bits start).symbols left ∧ second ∈ (g.bits start).symbols right ↔
        (first ∈ (g.bits start).symbols left' ∧ second ∈ (g.bits start).symbols right') ∨
          first ∈ (g.bits start).symbols left'' ∧ second ∈ (g.bits start).symbols right'') :
    (g.bits start).combine left right =
      (g.bits start).combine left' right' ||| (g.bits start).combine left'' right'' := by
  -- Combinations have no bits but those of heads, so it is enough to compare what they hold.
  refine (fits_combine g start _ _).ext ((fits_combine g start _ _).or (fits_combine g start _ _))
    (hg.pairwise_bits start) fun c => ?_
  rw [BitGrammar.mem_symbols_or_iff hg.bits_nodup]
  simp only [hg.mem_symbols_combine_iff, hpairs, and_or_left, exists_or]

/-- What a union joins on its left side is what its parts join. -/
theorem combine_lor_left (hg : g.WellFormed) :
    (g.bits start).combine (Int.lor left other) right =
      (g.bits start).combine left right ||| (g.bits start).combine other right :=
  hg.combine_eq_or fun _ _ => by
    rw [BitGrammar.mem_symbols_lor_iff hg.bits_nodup, or_and_right]

/-- So it is on the right side. -/
theorem combine_lor_right (hg : g.WellFormed) :
    (g.bits start).combine left (Int.lor right other) =
      (g.bits start).combine left right ||| (g.bits start).combine left other :=
  hg.combine_eq_or fun _ _ => by
    rw [BitGrammar.mem_symbols_lor_iff hg.bits_nodup, and_or_left]

end WellFormed

/-! ## Masks and sets -/

/-- Every integer stands for a set of nonterminals, and the operations on integers are those on
sets. -/
structure MasksAreSets (g : Grammar) (c : BitGrammar) : Prop where
  /-- The set of an integer reads back in ascending order. -/
  symbols_ascending : ∀ bits : Int, (c.symbols bits).Pairwise (· < ·)
  /-- Its members have bits, which add up to the residue of the integer. -/
  union_symbols : ∀ bits : Int, ∃ union : Nat, c.union? (c.symbols bits) = some union ∧
    union = bits % 2 ^ g.nonterminals.length
  /-- Its members are the symbols with a bit that the integer meets. -/
  mem_symbols_iff : ∀ (bits : Int) symbol, symbol ∈ c.symbols bits ↔
    ∃ bit : Nat, c.bit? [symbol] = some bit ∧ Int.land bits bit ≠ 0
  /-- A disjunction stands for the union. -/
  mem_symbols_lor_iff : ∀ (bits other : Int) symbol,
    symbol ∈ c.symbols (Int.lor bits other) ↔
      symbol ∈ c.symbols bits ∨ symbol ∈ c.symbols other
  /-- A conjunction stands for the intersection. -/
  mem_symbols_land_iff : ∀ (bits other : Int) symbol,
    symbol ∈ c.symbols (Int.land bits other) ↔
      symbol ∈ c.symbols bits ∧ symbol ∈ c.symbols other
  /-- The texts without a bit are those that are no nonterminal. -/
  bit?_eq_none_iff : ∀ text, c.bit? text = none ↔ ∀ symbol ∈ c.nonterminals, text ≠ [symbol]
  /-- No two texts have the same bit. -/
  bit?_injective : ∀ text text' bit, c.bit? text = some bit → c.bit? text' = some bit →
    text = text'
  /-- Two sets are combined to the heads of the rules whose symbols they hold. -/
  mem_symbols_combine_iff : ∀ (left right : Int) head, head ∈ c.symbols (c.combine left right) ↔
    ∃ first second, .pair first second ∈ g.bodies head ∧ first ∈ c.symbols left ∧
      second ∈ c.symbols right
  /-- A union on the left is combined part by part. -/
  combine_lor_left : ∀ left other right : Int,
    c.combine (Int.lor left other) right = c.combine left right ||| c.combine other right
  /-- A union on the right is combined part by part. -/
  combine_lor_right : ∀ left right other : Int,
    c.combine left (Int.lor right other) = c.combine left right ||| c.combine left other

/-- An integer holds the symbols with a bit that it meets. -/
theorem WellFormed.mem_symbols_iff_land (hg : g.WellFormed) {bits : Int} {symbol : Char} :
    symbol ∈ (g.bits start).symbols bits ↔
      ∃ bit : Nat, (g.bits start).bit? [symbol] = some bit ∧ Int.land bits bit ≠ 0 := by
  simp only [BitGrammar.mem_symbols_iff_commonBits hg.bits_nodup, BitGrammar.bit?_eq_some_iff,
    ← natCast_commonBits, Nat.cast_ne_zero]
  constructor
  · rintro ⟨hmem, hmeets⟩
    exact ⟨_, ⟨symbol, hmem, rfl, rfl⟩, hmeets⟩
  · rintro ⟨bit, ⟨other, hmem, hsame, rfl⟩, hmeets⟩
    obtain rfl := List.head_eq_of_cons_eq hsame
    exact ⟨hmem, hmeets⟩

/-- The masks of a reachable grammar are sets of its nonterminals, at integers of any size and
sign. -/
theorem masks_are_sets (hg : g.Reachable) {c : BitGrammar} (hc : g.toBits = .ok c) :
    g.MasksAreSets c := by
  obtain ⟨start, -, -, rfl⟩ := toBits_eq_ok_iff.1 hc
  have hwf := hg.wellFormed
  have hnodup : (g.bits start).nonterminals.Nodup := hwf.bits_nodup
  -- Numbering sorts the nonterminals and keeps each of them.
  have hlength : (g.bits start).nonterminals.length = g.nonterminals.length :=
    (sortBy_perm _ _).length_eq
  exact
    { symbols_ascending := hwf.pairwise_symbols start
      union_symbols := fun bits =>
        ⟨_, BitGrammar.union?_eq (selectBits_sublist _ _).subset,
          hlength ▸ BitGrammar.natCast_maskIn_symbols hnodup bits⟩
      mem_symbols_iff := fun _ _ => hwf.mem_symbols_iff_land
      mem_symbols_lor_iff := fun _ _ _ => BitGrammar.mem_symbols_lor_iff hnodup
      mem_symbols_land_iff := fun _ _ _ => BitGrammar.mem_symbols_land_iff hnodup
      bit?_eq_none_iff := fun _ => BitGrammar.bit?_eq_none_iff
      bit?_injective := fun _ _ _ => BitGrammar.eq_of_bit?_eq_some
      mem_symbols_combine_iff := fun _ _ _ => hwf.mem_symbols_combine_iff
      combine_lor_left := fun _ _ _ => hwf.combine_lor_left
      combine_lor_right := fun _ _ _ => hwf.combine_lor_right }

/-- A negative integer, which has all bits but two, is the set that its last three bits say, and
combines with another one by the rules. -/
theorem masks_are_sets_negative :
    let g : Grammar :=
      { nonterminals := ['S', 'A', 'B']
        terminals := ['a']
        start := some 'S'
        rules := [⟨'S', .pair 'A' 'B'⟩, ⟨'B', .pair 'B' 'A'⟩, ⟨'A', .terminal 'a'⟩] }
    ∃ c, g.toBits = .ok c ∧ g.MasksAreSets c ∧ c.symbols (-7) = ['A'] ∧
      c.union? (c.symbols (-7)) = some 1 ∧ c.bit? ['A', 'B'] = none ∧
      'S' ∈ c.symbols (c.combine (-7) (-2)) := by
  intro g
  have hg : g.Reachable := .of_edits
    [.declareNonterminal (.text "S"), .declareNonterminal (.text "A"),
      .declareNonterminal (.text "B"), .declareTerminal (.text "a"), .setStart (.text "S"),
      .addRule (.text "S") (.text "AB"), .addRule (.text "B") (.text "BA"),
      .addRule (.text "A") (.text "a")]
    (by decide +kernel)
  have hc : g.toBits = .ok (g.bits 'S') := toBits_eq_ok (List.cons_ne_nil _ _) rfl
  have hsets : g.MasksAreSets (g.bits 'S') := masks_are_sets hg hc
  have hseven : (g.bits 'S').symbols (-7) = ['A'] := by decide +kernel
  refine ⟨_, hc, hsets, hseven, ?_, ?_, ?_⟩
  · obtain ⟨union, hunion, hresidue⟩ := hsets.union_symbols (-7)
    rw [hunion, Option.some.injEq, ← Nat.cast_inj (R := Int), hresidue]
    rfl
  · refine (hsets.bit?_eq_none_iff _).2 fun symbol _ => ?_
    simp
  · refine (hsets.mem_symbols_combine_iff _ _ _).2 ⟨'A', 'B', by decide, ?_, by decide +kernel⟩
    rw [hseven]
    exact List.mem_cons_self

end Grammar

end CykChart
