/-!
# What is raised

An error is raised with a message, and the message is written first. Integers may have any size, but
the interpreter may be set to write only those with so many digits. Where a message would show an
integer with more of them, writing it fails, and this is raised in place of the error.

## Main definitions

- `DigitLimit`: how many digits an integer may be written with.
- `Raised`: what is raised; `Raised.message` words it.
- `DigitLimit.raise`: what is raised for an error whose message shows given integers.
-/

namespace CykChart

/-- How many digits an integer may be written with. -/
inductive DigitLimit where
  /-- Any number of digits. -/
  | unlimited
  /-- So many digits at most. -/
  | atMost (digits : Nat)
  deriving DecidableEq, Repr

/-- What is raised for an error. -/
inductive Raised (ε : Type) where
  /-- The error itself, whose message can be written. -/
  | intended (error : ε)
  /-- An integer in the message has more digits than the limit. -/
  | tooManyDigits (limit : Nat)
  deriving DecidableEq, Repr

/-- The wording of what is raised, from the wording of errors. -/
def Raised.message {ε : Type} (wording : ε → String) : Raised ε → String
  | .intended error => wording error
  | .tooManyDigits limit =>
    "Exceeds the limit (" ++ toString limit ++ " digits) for integer string conversion; "
      ++ "use sys.set_int_max_str_digits() to increase the limit"

namespace DigitLimit

/-- The limit in force unless another one is set. -/
def standard : DigitLimit :=
  .atMost 4300

/-- The limit allows an integer to be written. A sign is no digit. -/
def Allows : DigitLimit → Int → Prop
  | .unlimited, _ => True
  | .atMost digits, value => value.natAbs < Nat.pow 10 digits

/-- Whether an integer may be written is decidable. -/
instance (limit : DigitLimit) (value : Int) : Decidable (limit.Allows value) :=
  match limit with
  | .unlimited => .isTrue trivial
  | .atMost digits => inferInstanceAs (Decidable (value.natAbs < Nat.pow 10 digits))

/-- What is raised for an error whose message shows some integers. -/
def raise {ε : Type} (limit : DigitLimit) (error : ε) (shown : List Int) : Raised ε :=
  match limit with
  | .unlimited => .intended error
  | .atMost digits =>
    if ∀ value ∈ shown, (atMost digits).Allows value then .intended error
    else .tooManyDigits digits

variable {ε : Type} {limit : DigitLimit} {error meant : ε} {shown : List Int} {digits : Nat}

/-- An error is raised itself where the limit allows all integers in its message. -/
theorem raise_eq_intended_iff :
    limit.raise error shown = .intended meant ↔
      error = meant ∧ ∀ value ∈ shown, limit.Allows value := by
  cases limit with
  | unlimited => simp [raise, Allows]
  | atMost digits =>
    rw [raise]
    split
    next hall => rw [Raised.intended.injEq, and_iff_left hall]
    next hnot => exact iff_of_false (by simp) fun h => hnot h.2

/-- In its place the limit is reported where one of them exceeds it. -/
theorem raise_eq_tooManyDigits_iff :
    limit.raise error shown = .tooManyDigits digits ↔
      limit = .atMost digits ∧ ∃ value ∈ shown, ¬ limit.Allows value := by
  cases limit with
  | unlimited => simp [raise]
  | atMost most =>
    rw [raise]
    split
    next hall =>
      -- All shown integers are allowed, so none is too long.
      refine iff_of_false (by simp) ?_
      rintro ⟨-, value, hvalue, hlong⟩
      exact hlong (hall value hvalue)
    next hnot =>
      rw [Raised.tooManyDigits.injEq, atMost.injEq, iff_self_and]
      simpa using fun _ => hnot

end DigitLimit

end CykChart
