/-!
# Reading UTF-8

Bytes are read one at a time. Between characters nothing is pending. Inside a character the bytes
held so far are pending, with the range in which the next byte has to lie; the first range is
narrower after the lead bytes `E0`, `ED`, `F0` and `F4`, which rules out overlong forms,
surrogates and values above U+10FFFF. A fault therefore covers the longest stretch of bytes that
could still have begun a character.

## Main definitions

- `Fault`: where and why bytes are no UTF-8 text; `Fault.message` words it.
- `Pending`: a character of which not all bytes are read.
- `decode`: the text that bytes encode.
-/

namespace CykChart.Text.Utf8

/-- Why bytes are no UTF-8 text. -/
inductive Reason where
  /-- A byte stands where a character begins and begins none. -/
  | invalidStart
  /-- A character is followed by a byte outside its range before it is complete. -/
  | invalidContinuation
  /-- The bytes end inside a character. -/
  | unexpectedEnd
  deriving DecidableEq, Repr

/-- The wording of a reason. -/
def Reason.message : Reason → String
  | .invalidStart => "invalid start byte"
  | .invalidContinuation => "invalid continuation byte"
  | .unexpectedEnd => "unexpected end of data"

/-- The first stretch of bytes that encodes nothing. -/
structure Fault where
  /-- Why it encodes nothing. -/
  reason : Reason
  /-- Its first byte. -/
  lead : UInt8
  /-- The number of bytes before it. -/
  start : Nat
  /-- Its number of bytes, at least one. -/
  length : Nat
  deriving DecidableEq, Repr

/-- The wording of a fault: a single byte is shown, of several only the positions. -/
def Fault.message (fault : Fault) : String :=
  let place :=
    if fault.length = 1 then
      let digits := [Nat.digitChar (fault.lead.toNat / 16), Nat.digitChar (fault.lead.toNat % 16)]
      "byte 0x" ++ String.ofList digits ++ " in position " ++ toString fault.start
    else
      "bytes in position " ++ toString fault.start ++ "-"
        ++ toString (fault.start + fault.length - 1)
  "'utf-8' codec can't decode " ++ place ++ ": " ++ fault.reason.message

/-- A character of which some bytes are read and others are owed. -/
structure Pending where
  /-- The position of its first byte. -/
  start : Nat
  /-- Its first byte. -/
  lead : UInt8
  /-- The number of bytes read. -/
  held : Nat
  /-- The number of bytes owed after the next one. -/
  owed : Nat
  /-- The least value of the next byte. -/
  low : UInt8
  /-- The greatest value of the next byte. -/
  high : UInt8
  /-- The bits read so far. -/
  value : Nat
  deriving DecidableEq, Repr

/-- The fault of a character that stops where it stands. -/
def Pending.fault (pending : Pending) (reason : Reason) : Fault :=
  ⟨reason, pending.lead, pending.start, pending.held⟩

/-- A character of several bytes, after its lead byte; none for a byte that leads no character. -/
def Pending.ofLead? (start : Nat) (lead : UInt8) : Option Pending :=
  let begin (owed : Nat) (low high : UInt8) (value : Nat) : Option Pending :=
    some ⟨start, lead, 1, owed, low, high, value⟩
  -- Continuation bytes and the overlong leads C0 and C1 begin no character.
  if lead < 0xC2 then none
  else if lead < 0xE0 then begin 0 0x80 0xBF (lead.toNat - 0xC0)
  -- After E0 a small second byte would be overlong, and after ED a large one a surrogate.
  else if lead = 0xE0 then begin 1 0xA0 0xBF 0
  else if lead = 0xED then begin 1 0x80 0x9F 0xD
  else if lead < 0xF0 then begin 1 0x80 0xBF (lead.toNat - 0xE0)
  -- After F0 a small second byte would be overlong, and after F4 a large one beyond U+10FFFF.
  else if lead = 0xF0 then begin 2 0x90 0xBF 0
  else if lead < 0xF4 then begin 2 0x80 0xBF (lead.toNat - 0xF0)
  else if lead = 0xF4 then begin 2 0x80 0x8F 4
  else none

/-- The value of a character after one byte more. -/
def Pending.extended (pending : Pending) (byte : UInt8) : Nat :=
  pending.value * 64 + (byte.toNat - 0x80)

/-- The text that bytes encode, read from `position` on with a character pending or none. -/
def decodeFrom (position : Nat) : Option Pending → List UInt8 → Except Fault (List Char)
  | none, [] => .ok []
  | some pending, [] => .error (pending.fault .unexpectedEnd)
  | none, byte :: rest =>
    if byte < 0x80 then
      (Char.ofNat byte.toNat :: ·) <$> decodeFrom (position + 1) none rest
    else match Pending.ofLead? position byte with
      | some pending => decodeFrom (position + 1) (some pending) rest
      | none => .error ⟨.invalidStart, byte, position, 1⟩
  | some pending, byte :: rest =>
    if pending.low ≤ byte && byte ≤ pending.high then
      let value := pending.extended byte
      match pending.owed with
      | 0 => (Char.ofNat value :: ·) <$> decodeFrom (position + 1) none rest
      | owed + 1 =>
        decodeFrom (position + 1)
          (some ⟨pending.start, pending.lead, pending.held + 1, owed, 0x80, 0xBF, value⟩) rest
    else .error (pending.fault .invalidContinuation)

/-- The text that bytes encode. -/
def decode (bytes : List UInt8) : Except Fault (List Char) :=
  decodeFrom 0 none bytes

/-- The bytes of a text. -/
def encode (cs : List Char) : List UInt8 :=
  cs.flatMap String.utf8EncodeChar

end CykChart.Text.Utf8
