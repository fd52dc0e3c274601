import StubAssist.Text

/-!
# Shortest decimals

Writes a binary floating-point number with the fewest decimal digits that read
back as the same number, and of those the ones nearest to it; of two that are
equally near, the larger.  The text is always positional.  All comparisons are
between natural numbers.
-/

namespace StubAssist
namespace Shortest

/-- The positive number `significand * 2 ^ exponent`. -/
structure Binary where
  significand : Nat
  exponent : Int
  /-- The neighbour below is half as far away as the one above. -/
  narrowBelow : Bool

/-- The magnitude of a finite number, or `none` for zero. -/
def Binary.ofBits (bits : Nat) : Option Binary :=
  let fraction := bits % Nat.pow 2 52
  let field := bits / Nat.pow 2 52 % Nat.pow 2 11
  if field = 0 then
    if fraction = 0 then none else some ⟨fraction, -1074, false⟩
  else
    some ⟨Nat.pow 2 52 + fraction, Int.ofNat field - 1075, fraction == 0 && field != 1⟩

/-- The number `digits * 10 ^ exponent`. -/
structure Decimal where
  digits : Nat
  exponent : Int

/--
The multiple of `10 ^ exponent` next to the number, if one of the two around it
reads back.  Lengths are measured in quarters of the number's last place.
-/
def onGrid? (b : Binary) (exponent : Int) : Option Decimal :=
  let quarter := b.exponent - 2
  let grid := Nat.pow 10 exponent.toNat * Nat.pow 2 (-quarter).toNat
  let unit := Nat.pow 2 quarter.toNat * Nat.pow 10 (-exponent).toNat
  let value := 4 * b.significand * unit
  let low := (4 * b.significand - if b.narrowBelow then 1 else 2) * unit
  let high := (4 * b.significand + 2) * unit
  let readsBack := fun digits =>
    if b.significand % 2 == 0 then low ≤ digits * grid && digits * grid ≤ high
    else low < digits * grid && digits * grid < high
  let below := value / grid
  let above := below + 1
  let belowIsNearer := value - below * grid < above * grid - value
  if readsBack below && (belowIsNearer || !readsBack above) then some ⟨below, exponent⟩
  else if readsBack above then some ⟨above, exponent⟩
  else none

def gridExponents : List Int :=
  (List.range 660).map fun i => 310 - Int.ofNat i

def Binary.toDecimal (b : Binary) : Decimal :=
  (gridExponents.findSome? (onGrid? b)).getD ⟨0, 0⟩

def Decimal.toText (d : Decimal) : Text :=
  let digits := Text.ofNat d.digits
  if 0 ≤ d.exponent then digits ++ List.replicate d.exponent.toNat '0'
  else
    let places := (-d.exponent).toNat
    let padded := List.replicate (places + 1 - digits.length) '0' ++ digits
    padded.take (padded.length - places) ++ '.' :: padded.drop (padded.length - places)

/-- The positional text of a number; a whole number has no point. -/
def ofFloat (x : Float) : Text :=
  let bits := x.toBits.toNat
  let sign : Text := if bits / Nat.pow 2 63 = 1 then ['-'] else []
  if x.isNaN then ['N', 'a', 'N']
  else if x.isInf then sign ++ ['i', 'n', 'f']
  else
    match Binary.ofBits bits with
    | none => sign ++ ['0']
    | some b => sign ++ b.toDecimal.toText

/-- A span of milliseconds in seconds, summed from whole seconds and the rest. -/
def secondsOfMillis (millis : Nat) : Text :=
  ofFloat (Float.ofNat (millis / 1000) + Float.ofNat (millis % 1000 * 1000000) / 1000000000)

end Shortest
end StubAssist
