import CykChart.Text.Utf8

/-!
# UTF-8 is read back

The bytes of a text decode to the text. A character is encoded in one to four bytes, and the reader
is followed through them: the lead byte tells how many are owed and bounds the next one, and the
bits of all of them make up the character. The narrower bounds after some lead bytes exclude no
character, for they only rule out overlong forms, surrogates and values that are too large.

## Main results

- `Text.Utf8.decodeFrom_utf8EncodeChar`: the reader over the bytes of one character.
- `Text.Utf8.decode_encode`: the reader over the bytes of a text.
-/

namespace CykChart.Text.Utf8

variable {lead byte : UInt8} {position first : Nat} {pending : Pending} {rest : List UInt8}

/-! ## Lead bytes -/

/-- Bytes are compared as numbers are. -/
theorem not_lt_of_le_toNat {bound : UInt8} (h : bound.toNat ≤ byte.toNat) : ¬ byte < bound := by
  rw [UInt8.lt_iff_toNat_lt]
  exact Nat.not_lt.2 h

section Leads

variable (start : Nat)

/-- A lead byte of two owes one byte, which may be any continuation byte. -/
theorem ofLead?_two (hlead : lead.toNat = first + 0xC0) (hlong : 2 ≤ first) (hfirst : first < 32) :
    Pending.ofLead? start lead = some ⟨start, lead, 1, 0, 0x80, 0xBF, first⟩ := by
  have hleads : ¬ lead < 0xC2 := not_lt_of_le_toNat (by show 0xC2 ≤ _; omega)
  have hless : lead < 0xE0 := UInt8.lt_iff_toNat_lt.2 (by show _ < 0xE0; omega)
  have hvalue : lead.toNat - 0xC0 = first := by omega
  simp only [Pending.ofLead?]
  rw [if_neg hleads, if_pos hless, hvalue]

/-- After `E0` the next byte is not small, and after `ED` it is not large. -/
theorem ofLead?_three (hlead : lead.toNat = first + 0xE0) (hfirst : first < 16) :
    Pending.ofLead? start lead =
      some ⟨start, lead, 1, 1, if first = 0 then 0xA0 else 0x80,
        if first = 13 then 0x9F else 0xBF, first⟩ := by
  have hleads : ¬ lead < 0xC2 := not_lt_of_le_toNat (by show 0xC2 ≤ _; omega)
  have hmore : ¬ lead < 0xE0 := not_lt_of_le_toNat (by show 0xE0 ≤ _; omega)
  have hless : lead < 0xF0 := UInt8.lt_iff_toNat_lt.2 (by show _ < 0xF0; omega)
  have hvalue : lead.toNat - 0xE0 = first := by omega
  have hzero : lead = 0xE0 ↔ first = 0 := by
    rw [← UInt8.toNat_inj]
    show lead.toNat = 0xE0 ↔ _
    omega
  have hsurrogates : lead = 0xED ↔ first = 13 := by
    rw [← UInt8.toNat_inj]
    show lead.toNat = 0xED ↔ _
    omega
  simp only [Pending.ofLead?, if_neg hleads, if_neg hmore, if_pos hless, hzero, hsurrogates, hvalue]
  -- The two lead bytes with bounds of their own come first; the others share theirs.
  split
  next h => subst h; rfl
  next =>
    split
    next h => subst h; rfl
    next => rfl

/-- After `F0` the next byte is not small, and after `F4` it is not large. -/
theorem ofLead?_four (hlead : lead.toNat = first + 0xF0) (hfirst : first ≤ 4) :
    Pending.ofLead? start lead =
      some ⟨start, lead, 1, 2, if first = 0 then 0x90 else 0x80,
        if first = 4 then 0x8F else 0xBF, first⟩ := by
  have hleads : ¬ lead < 0xC2 := not_lt_of_le_toNat (by show 0xC2 ≤ _; omega)
  have hmore : ¬ lead < 0xE0 := not_lt_of_le_toNat (by show 0xE0 ≤ _; omega)
  have hmost : ¬ lead < 0xF0 := not_lt_of_le_toNat (by show 0xF0 ≤ _; omega)
  have hvalue : lead.toNat - 0xF0 = first := by omega
  -- The tests for other leads are passed over, and those for the two ends are tests on the leading
  -- bits.
  have hthree : ∀ other : UInt8, other.toNat < 0xF0 → lead ≠ other := by
    rintro other hother rfl
    omega
  have hzero : lead = 0xF0 ↔ first = 0 := by
    rw [← UInt8.toNat_inj]
    show lead.toNat = 0xF0 ↔ _
    omega
  have hlast : lead = 0xF4 ↔ first = 4 := by
    rw [← UInt8.toNat_inj]
    show lead.toNat = 0xF4 ↔ _
    omega
  have hless : lead < 0xF4 ↔ first < 4 := by
    rw [UInt8.lt_iff_toNat_lt]
    show lead.toNat < 0xF4 ↔ _
    omega
  simp only [Pending.ofLead?, if_neg hleads, if_neg hmore, if_neg hmost,
    if_neg (hthree 0xE0 (by decide)), if_neg (hthree 0xED (by decide)), hzero, hlast, hless, hvalue]
  split
  next h => subst h; rfl
  next =>
    split
    next h => rw [if_neg (Nat.ne_of_lt h)]
    next h =>
      obtain rfl : first = 4 := Nat.le_antisymm hfirst (Nat.not_lt.1 h)
      rfl

end Leads

/-! ## Continuation bytes -/

section Continuation

variable {bits : Nat} (hbyte : byte.toNat = bits + 0x80)
  (hlow : pending.low.toNat ≤ bits + 0x80) (hhigh : bits + 0x80 ≤ pending.high.toNat)

include hbyte

/-- A continuation byte adds six bits to the value. -/
theorem extended_eq : pending.extended byte = pending.value * 64 + bits := by
  unfold Pending.extended
  omega

include hlow hhigh

/-- A continuation byte within the bounds of what is owed is accepted. -/
theorem within_eq_true : (pending.low ≤ byte && byte ≤ pending.high) = true := by
  rw [Bool.and_eq_true, decide_eq_true_eq, decide_eq_true_eq, UInt8.le_iff_toNat_le,
    UInt8.le_iff_toNat_le, hbyte]
  exact ⟨hlow, hhigh⟩

/-- The last byte that is owed completes the character. -/
theorem decodeFrom_last (howed : pending.owed = 0) :
    decodeFrom position (some pending) (byte :: rest) =
      (Char.ofNat (pending.value * 64 + bits) :: ·) <$> decodeFrom (position + 1) none rest := by
  rw [decodeFrom, if_pos (within_eq_true hbyte hlow hhigh), extended_eq hbyte]
  simp only [howed]

/-- A byte that is not the last one owed leaves one fewer to come, and no bounds of its own for
that. -/
theorem decodeFrom_more {owed : Nat} (howed : pending.owed = owed + 1) :
    decodeFrom position (some pending) (byte :: rest) =
      decodeFrom (position + 1) (some ⟨pending.start, pending.lead, pending.held + 1, owed, 0x80,
        0xBF, pending.value * 64 + bits⟩) rest := by
  rw [decodeFrom, if_pos (within_eq_true hbyte hlow hhigh), extended_eq hbyte]
  simp only [howed]

end Continuation

/-- A lead byte opens a character at its position. -/
theorem decodeFrom_lead (hlong : 0x80 ≤ lead.toNat)
    (hlead : Pending.ofLead? position lead = some pending) :
    decodeFrom position none (lead :: rest) = decodeFrom (position + 1) (some pending) rest := by
  have hmore : ¬ lead < 0x80 := not_lt_of_le_toNat hlong
  rw [decodeFrom, if_neg hmore, hlead]

/-! ## Characters -/

section Bounds

variable {p : Prop} [Decidable p] {bound : UInt8} {bits : Nat}

/-- A byte keeps a lower bound that is raised only if its bits are large. -/
theorem bound_le_bits {least : Nat} (hbound : bound.toNat = least + 0x80)
    (h : p → least ≤ bits) : (if p then bound else 0x80).toNat ≤ bits + 0x80 := by
  split
  next hp => exact hbound ▸ Nat.add_le_add_right (h hp) 0x80
  next => exact Nat.le_add_left _ _

/-- A byte keeps an upper bound that is lowered only if its bits are small. -/
theorem bits_le_bound {most : Nat} (hbound : bound.toNat + 1 = most + 0x80) (hbits : bits < 64)
    (h : p → bits < most) : bits + 0x80 ≤ (if p then bound else 0xBF).toNat := by
  split
  next hp =>
    have hless := h hp
    omega
  next => exact Nat.add_le_add_right (Nat.le_of_lt_succ hbits) 0x80

end Bounds

section Characters

variable {second third fourth : Nat} {one two three : UInt8}

/-- Two bytes are decoded as the character of their eleven bits. -/
theorem decodeFrom_two (hlead : lead.toNat = first + 0xC0) (hone : one.toNat = second + 0x80)
    (hfirst : 2 ≤ first ∧ first < 32) (hsecond : second < 64) :
    decodeFrom position none (lead :: one :: rest) =
      (Char.ofNat (first * 64 + second) :: ·) <$> decodeFrom (position + 2) none rest := by
  have hhigh : second + 0x80 ≤ 0xBF := by omega
  refine Eq.trans (decodeFrom_lead (by omega) (ofLead?_two position hlead hfirst.1 hfirst.2)) ?_
  exact decodeFrom_last hone (Nat.le_add_left _ _) hhigh rfl

/-- Three bytes are decoded as the character of their sixteen bits, if it is no surrogate and needs
them. -/
theorem decodeFrom_three (hlead : lead.toNat = first + 0xE0) (hone : one.toNat = second + 0x80)
    (htwo : two.toNat = third + 0x80) (hfirst : first < 16) (hsecond : second < 64)
    (hthird : third < 64) (hlong : first = 0 → 32 ≤ second) (hvalid : first = 13 → second < 32) :
    decodeFrom position none (lead :: one :: two :: rest) =
      (Char.ofNat ((first * 64 + second) * 64 + third) :: ·) <$>
        decodeFrom (position + 3) none rest := by
  -- The bounds on the second byte are those of the lead: no overlong form, no surrogate.
  have hlow : (if first = 0 then (0xA0 : UInt8) else 0x80).toNat ≤ second + 0x80 :=
    bound_le_bits rfl hlong
  have hhigh : second + 0x80 ≤ (if first = 13 then (0x9F : UInt8) else 0xBF).toNat :=
    bits_le_bound rfl hsecond hvalid
  have hlast : third + 0x80 ≤ 0xBF := by omega
  refine Eq.trans (decodeFrom_lead (by omega) (ofLead?_three position hlead hfirst)) ?_
  refine Eq.trans (decodeFrom_more hone hlow hhigh rfl) ?_
  exact decodeFrom_last htwo (Nat.le_add_left _ _) hlast rfl

/-- Four bytes are decoded as the character of their bits, if it is a code point and needs them. -/
theorem decodeFrom_four (hlead : lead.toNat = first + 0xF0) (hone : one.toNat = second + 0x80)
    (htwo : two.toNat = third + 0x80) (hthree : three.toNat = fourth + 0x80) (hfirst : first ≤ 4)
    (hsecond : second < 64) (hthird : third < 64) (hfourth : fourth < 64)
    (hlong : first = 0 → 16 ≤ second) (hvalid : first = 4 → second < 16) :
    decodeFrom position none (lead :: one :: two :: three :: rest) =
      (Char.ofNat (((first * 64 + second) * 64 + third) * 64 + fourth) :: ·) <$>
        decodeFrom (position + 4) none rest := by
  -- The lead narrows the second byte only: overlong forms and values beyond the last are shut out
  -- there.
  have hlow : (if first = 0 then (0x90 : UInt8) else 0x80).toNat ≤ second + 0x80 :=
    bound_le_bits rfl hlong
  have hhigh : second + 0x80 ≤ (if first = 4 then (0x8F : UInt8) else 0xBF).toNat :=
    bits_le_bound rfl hsecond hvalid
  have hmiddle : third + 0x80 ≤ (0xBF : UInt8).toNat :=
    Nat.add_le_add_right (Nat.le_of_lt_succ hthird) 0x80
  have hlast : fourth + 0x80 ≤ 0xBF := by omega
  refine Eq.trans (decodeFrom_lead (by omega) (ofLead?_four position hlead hfirst)) ?_
  refine Eq.trans (decodeFrom_more hone hlow hhigh rfl) ?_
  refine Eq.trans (decodeFrom_more htwo (Nat.le_add_left _ _) hmiddle rfl) ?_
  exact decodeFrom_last hthree (Nat.le_add_left _ _) hlast rfl

end Characters

/-- A number below 256 is kept as a byte. -/
theorem toNat_ofNat_of_lt {n : Nat} (h : n < 256) : (UInt8.ofNat n).toNat = n := by
  rw [UInt8.toNat_ofNat']
  exact Nat.mod_eq_of_lt h

/-- The bytes of a character decode to the character. -/
theorem decodeFrom_utf8EncodeChar (c : Char) :
    decodeFrom position none (String.utf8EncodeChar c ++ rest) =
      (c :: ·) <$> decodeFrom (position + (String.utf8EncodeChar c).length) none rest := by
  obtain ⟨v, hv⟩ : ∃ v, v = c.val.toNat := ⟨_, rfl⟩
  have hchar : Char.ofNat v = c := hv ▸ Char.ofNat_toNat c
  -- No character is a surrogate or beyond the last one, so no second byte is out of bounds.
  have hvalid : v < 0xD800 ∨ 0xDFFF < v ∧ v < 0x110000 := hv ▸ c.valid
  have hbyte : ∀ {n : Nat}, n < 256 → (UInt8.ofNat n).toNat = n := toNat_ofNat_of_lt
  unfold String.utf8EncodeChar
  rw [← hv]
  dsimp only
  -- One case for each number of bytes; the bits that they hold are the digits of the value.
  split
  next hone =>
    have hless : UInt8.ofNat v < 0x80 := by
      rw [UInt8.lt_iff_toNat_lt, hbyte (by omega)]
      exact Nat.lt_succ_of_le hone
    rw [List.singleton_append, decodeFrom, if_pos hless, hbyte (by omega), hchar]
    rfl
  next =>
    split
    next htwo =>
      have hvalue : v / 64 % 32 * 64 + v % 64 = v := by omega
      refine Eq.trans (decodeFrom_two (hbyte (by omega)) (hbyte (by omega)) (by omega)
        (by omega)) ?_
      rw [hvalue, hchar]
      rfl
    next =>
      split
      next hthree =>
        have hvalue : (v / 4096 % 16 * 64 + v / 64 % 64) * 64 + v % 64 = v := by omega
        refine Eq.trans (decodeFrom_three (hbyte (by omega)) (hbyte (by omega)) (hbyte (by omega))
          (by omega) (by omega) (by omega) (by omega) (by omega)) ?_
        rw [hvalue, hchar]
        rfl
      next =>
        have hvalue : ((v / 262144 % 8 * 64 + v / 4096 % 64) * 64 + v / 64 % 64) * 64 + v % 64 =
          v := by omega
        refine Eq.trans (decodeFrom_four (hbyte (by omega)) (hbyte (by omega)) (hbyte (by omega))
          (hbyte (by omega)) (by omega) (by omega) (by omega) (by omega) (by omega) (by omega)) ?_
        rw [hvalue, hchar]
        rfl

/-- The bytes of a text decode to the text. -/
theorem decode_encode (cs : List Char) : decode (encode cs) = .ok cs := by
  -- By induction on the text; the position matters for faults only, so any will do.
  have hread : ∀ position, decodeFrom position none (encode cs) = .ok cs := by
    induction cs with
    | nil => exact fun _ => rfl
    | cons c rest ih =>
      intro position
      rw [encode, List.flatMap_cons, decodeFrom_utf8EncodeChar, ← encode, ih]
      rfl
  exact hread 0

end CykChart.Text.Utf8
