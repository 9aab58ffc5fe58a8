import Yardstick.Text.Digit

/-!
# UTF-8

Bytes are decoded as a whole. `decode` gives back every text that was encoded (`decode_encode`), and
for other bytes names the first place where they stop being UTF-8 and why.
-/

namespace Yardstick.Text.Utf8

inductive Cause
  | invalidStart
  | invalidContinuation
  | unexpectedEnd
  deriving Repr, DecidableEq

/-- Where and why bytes are not UTF-8: `size` bytes from `start` on cannot be decoded, the first of
them being `byte`. -/
structure Fault where
  byte : Nat
  start : Nat
  size : Nat
  cause : Cause
  deriving Repr, DecidableEq

def Cause.text : Cause → String
  | .invalidStart => "invalid start byte"
  | .invalidContinuation => "invalid continuation byte"
  | .unexpectedEnd => "unexpected end of data"

def Fault.message (f : Fault) : String :=
  let what :=
    if f.size = 1 then
      s!"byte 0x{String.ofList (hexDigits 2 f.byte)} in position {f.start}"
    else s!"bytes in position {f.start}-{f.start + f.size - 1}"
  s!"'utf-8' codec can't decode {what}: {f.cause.text}"

/-- How many bytes follow a first byte, and the least and greatest value of the second one. -/
def shape? (b : Nat) : Option (Nat × Nat × Nat) :=
  if b < 0x80 then some (0, 0, 0)
  else if b < 0xC2 then none
  else if b < 0xE0 then some (1, 0x80, 0xBF)
  else if b = 0xE0 then some (2, 0xA0, 0xBF)
  else if b = 0xED then some (2, 0x80, 0x9F)
  else if b < 0xF0 then some (2, 0x80, 0xBF)
  else if b = 0xF0 then some (3, 0x90, 0xBF)
  else if b < 0xF4 then some (3, 0x80, 0xBF)
  else if b = 0xF4 then some (3, 0x80, 0x8F)
  else none

/-- Reads `n` bytes, the first of them between `lo` and `hi`, and says how many could be read and
why no more. -/
def tailFault? (lo hi : Nat) : Nat → List Nat → Option (Nat × Cause)
  | 0, _ => none
  | _ + 1, [] => some (0, .unexpectedEnd)
  | n + 1, b :: rest =>
    if lo ≤ b && b ≤ hi then (tailFault? 0x80 0xBF n rest).map fun (k, c) => (k + 1, c)
    else some (0, .invalidContinuation)

/-- The first fault of the bytes, which start at position `pos`. -/
def faultFrom (pos : Nat) : List Nat → Option Fault
  | [] => none
  | b :: rest =>
    match shape? b with
    | none => some ⟨b, pos, 1, .invalidStart⟩
    | some (n, lo, hi) =>
      match tailFault? lo hi n rest with
      | some (k, cause) => some ⟨b, pos, k + 1, cause⟩
      | none => faultFrom (pos + 1 + n) (rest.drop n)
  termination_by bs => bs.length
  decreasing_by simp only [List.length_drop, List.length_cons]; omega

def byteList (bytes : ByteArray) : List Nat := bytes.toList.map (·.toNat)

def encode (s : String) : ByteArray := s.toUTF8

/-- The text of the bytes, or their first fault. -/
def decode (bytes : ByteArray) : Except Fault String :=
  match String.fromUTF8? bytes with
  | some s => .ok s
  | none => .error ((faultFrom 0 (byteList bytes)).getD ⟨0, 0, 1, .invalidStart⟩)

/-- Encoded text is read back. -/
theorem decode_encode (s : String) : decode (encode s) = .ok s := by
  have : String.fromUTF8? s.toByteArray = some s := by
    simp only [String.fromUTF8?, s.isValidUTF8, dite_true]
    rfl
  simp [decode, encode, this]

end Yardstick.Text.Utf8
