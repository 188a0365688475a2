import MiniPL.Text.Basic
/-!
# Bytes to text

Reading a text from its UTF-8 form, byte by byte, with the exact place and reason of the first fault.
A byte that cannot continue a sequence ends it at once, so the faulty stretch is the longest beginning
of the sequence that could still have become a character.
-/

namespace MiniPL.Text.Utf8

/-- How many bytes a text takes. -/
def size (t : Text) : Nat := t.foldl (fun n c => n + c.utf8Size) 0

/-- Why a stretch of bytes is no UTF-8. -/
inductive Reason where
  | invalidStart
  | invalidContinuation
  | unexpectedEnd
  deriving DecidableEq

def Reason.text : Reason → Text
  | .invalidStart => "invalid start byte"
  | .invalidContinuation => "invalid continuation byte"
  | .unexpectedEnd => "unexpected end of data"

/-- A stretch of bytes that is no UTF-8: its first byte, where it begins, how long it is, and why. -/
structure Fault where
  first : UInt8
  position : Nat
  size : Nat
  reason : Reason
  deriving DecidableEq

/-- The wording of a fault. A single byte is shown, a longer stretch is only located. -/
def Fault.text (f : Fault) : Text :=
  if f.size = 1 then
    "'utf-8' codec can't decode byte 0x" ++ hex 2 f.first.toNat ++ " in position " ++ ofNat f.position ++
      ": " ++ f.reason.text
  else
    "'utf-8' codec can't decode bytes in position " ++ ofNat f.position ++ "-" ++
      ofNat (f.position + f.size - 1) ++ ": " ++ f.reason.text

/-- How many bytes must follow a first byte, and the bits of the code point that it carries itself. -/
def lead? (b : UInt8) : Option (Nat × Nat) :=
  let n := b.toNat
  if n < 0x80 then some (0, n)
  else if n < 0xC2 then none
  else if n < 0xE0 then some (1, n - 0xC0)
  else if n < 0xF0 then some (2, n - 0xE0)
  else if n < 0xF5 then some (3, n - 0xF0)
  else none

/-- A sequence that has begun: its first byte and position, how many bytes were taken and are still
wanted, and the bits collected. -/
structure Sequence where
  first : UInt8
  position : Nat
  taken : Nat
  wanted : Nat
  bits : Nat
  deriving DecidableEq

/-- Whether `b` can stand next in the sequence. The second byte is limited further where the first one
would otherwise allow a longer form than needed, a surrogate, or a number beyond Unicode. -/
def Sequence.admits (s : Sequence) (b : UInt8) : Bool :=
  let n := b.toNat
  0x80 ≤ n && n < 0xC0 &&
    (s.taken != 1 ||
      (match s.first.toNat with
        | 0xE0 => 0xA0 ≤ n
        | 0xED => n < 0xA0
        | 0xF0 => 0x90 ≤ n
        | 0xF4 => n < 0x90
        | _ => true))

def Sequence.fault (s : Sequence) (reason : Reason) : Fault :=
  { first := s.first, position := s.position, size := s.taken, reason }

/-- The text of the bytes from `position` on, `open?` being the sequence that has begun before them. -/
def decodeFrom (open? : Option Sequence) (position : Nat) : List UInt8 → Except Fault Text
  | [] => match open? with
    | none => .ok []
    | some s => .error (s.fault .unexpectedEnd)
  | b :: rest => match open? with
    | none => match lead? b with
      | none => .error { first := b, position, size := 1, reason := .invalidStart }
      | some (0, bits) => (Char.ofNat bits :: ·) <$> decodeFrom none (position + 1) rest
      | some (wanted, bits) => decodeFrom (some { first := b, position, taken := 1, wanted, bits }) (position + 1) rest
    | some s =>
      if s.admits b then
        let bits := 64 * s.bits + (b.toNat - 0x80)
        if s.wanted = 1 then (Char.ofNat bits :: ·) <$> decodeFrom none (position + 1) rest
        else decodeFrom (some { s with taken := s.taken + 1, wanted := s.wanted - 1, bits }) (position + 1) rest
      else .error (s.fault .invalidContinuation)

/-- The text that the bytes spell. -/
def decode (bytes : List UInt8) : Except Fault Text := decodeFrom none 0 bytes

end MiniPL.Text.Utf8
