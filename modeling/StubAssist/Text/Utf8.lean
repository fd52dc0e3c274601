import StubAssist.Text

/-!
# UTF-8

Bytes are read one at a time.  A unit is either a scalar value or a broken
sequence, and a broken sequence is as long as it could still have become a
valid one.  Strict decoding accepts no broken unit; lossy decoding writes the
replacement character for each.
-/

namespace StubAssist
namespace Utf8

abbrev Bytes := List UInt8

def encode (t : Text) : Bytes :=
  t.flatMap String.utf8EncodeChar

/-- A sequence under way: its value so far, and what its next byte must be. -/
structure Partial where
  value : Nat
  low : Nat
  high : Nat
  missing : Nat

inductive Lead where
  | scalar (value : Nat)
  | opens (sequence : Partial)
  | broken

def lead (byte : Nat) : Lead :=
  if byte < 0x80 then .scalar byte
  else if byte < 0xC2 then .broken
  else if byte < 0xE0 then .opens ⟨byte - 0xC0, 0x80, 0xBF, 1⟩
  else if byte = 0xE0 then .opens ⟨0, 0xA0, 0xBF, 2⟩
  else if byte = 0xED then .opens ⟨0xD, 0x80, 0x9F, 2⟩
  else if byte < 0xF0 then .opens ⟨byte - 0xE0, 0x80, 0xBF, 2⟩
  else if byte = 0xF0 then .opens ⟨0, 0x90, 0xBF, 3⟩
  else if byte < 0xF4 then .opens ⟨byte - 0xF0, 0x80, 0xBF, 3⟩
  else if byte = 0xF4 then .opens ⟨4, 0x80, 0x8F, 3⟩
  else .broken

/-- The units read so far, the latest first, and the sequence under way. -/
structure Decoder where
  units : List (Option Char)
  current : Option Partial

namespace Decoder

def initial : Decoder := ⟨[], none⟩

def begin (decoder : Decoder) (byte : Nat) : Decoder :=
  match lead byte with
  | .scalar value => ⟨some (Char.ofNat value) :: decoder.units, none⟩
  | .opens sequence => ⟨decoder.units, some sequence⟩
  | .broken => ⟨none :: decoder.units, none⟩

def step (decoder : Decoder) (byte : UInt8) : Decoder :=
  let byte := byte.toNat
  match decoder.current with
  | none => decoder.begin byte
  | some sequence =>
      if sequence.low ≤ byte && byte ≤ sequence.high then
        let value := 64 * sequence.value + (byte - 0x80)
        if sequence.missing = 1 then ⟨some (Char.ofNat value) :: decoder.units, none⟩
        else ⟨decoder.units, some ⟨value, 0x80, 0xBF, sequence.missing - 1⟩⟩
      else
        begin ⟨none :: decoder.units, none⟩ byte

def finish (decoder : Decoder) : List (Option Char) :=
  match decoder.current with
  | none => decoder.units.reverse
  | some _ => (none :: decoder.units).reverse

end Decoder

def units (bytes : Bytes) : List (Option Char) :=
  (bytes.foldl Decoder.step .initial).finish

def decode? (bytes : Bytes) : Option Text :=
  (units bytes).mapM id

def decodeLossy (bytes : Bytes) : Text :=
  (units bytes).map fun unit => unit.getD '\uFFFD'

end Utf8
end StubAssist
