import StubAssist.Shell.Arithmetic
import StubAssist.Text.Shortest

/-!
# Fractions

Floating-point numbers in texts, and their exact values rounded to a number of
decimal places or digits.
-/

namespace StubAssist
namespace Shell

inductive Fraction where
  | finite (numerator denominator : Nat)
  | infinite
  | notANumber
deriving DecidableEq, Repr

namespace Fraction

/-!
# Reading
-/

def ofFloat (x : Float) : Fraction :=
  if x.isInf then .infinite
  else
    match Shortest.Binary.ofBits x.toBits.toNat with
    | none => .finite 0 1
    | some b => .finite (b.significand * Nat.pow 2 b.exponent.toNat) (Nat.pow 2 (-b.exponent).toNat)

/-- The float nearest to `digits * 10 ^ exponent`, and whether that is out of the range. -/
def ofDecimal (digits : Text) (exponent : Int) : Fraction × Bool :=
  let mantissa := (Text.digitsFrom? 0 digits).getD 0
  let magnitude := (Text.ofNat mantissa).length + exponent
  if mantissa = 0 then (.finite 0 1, false)
  else if 400 < magnitude then (.infinite, true)
  else if magnitude < -400 then (.finite 0 1, true)
  else
    let x := Float.ofScientific mantissa (exponent < 0) exponent.natAbs
    (ofFloat x, x.isInf || x.toBits.toNat < Nat.pow 2 52)

def readExponent (t : Text) : Int × Text :=
  match t with
  | e :: rest =>
      let (factor, rest) : Int × Text :=
        match rest with
        | '-' :: rest => (-1, rest)
        | '+' :: rest => (1, rest)
        | rest => (1, rest)
      if (e == 'e' || e == 'E') && (rest.head?.map Char.isDigit).getD false then
        let (n, rest) := Arithmetic.readDigits 10 0 rest
        (factor * n, rest)
      else (0, t)
  | [] => (0, [])

/--
A number without a sign at the start of a text: its value, whether that is out of the
range, and the text after it.
-/
def readMagnitude? (t : Text) : Option (Fraction × Bool × Text) :=
  let word := fun (name : Text) => (t.take name.length).map Char.toLower == name
  if word "infinity" then some (.infinite, false, t.drop 8)
  else if word "inf" then some (.infinite, false, t.drop 3)
  else if word "nan" then some (.notANumber, false, t.drop 3)
  else if word "0x" && ((t.drop 2).head?.bind Arithmetic.hexValue?).isSome then
    let (n, rest) := Arithmetic.readDigits 16 0 (t.drop 2)
    some (.finite n 1, false, rest)
  else
    let whole := t.takeWhile Char.isDigit
    let (places, rest) :=
      match t.dropWhile Char.isDigit with
      | '.' :: rest => (rest.takeWhile Char.isDigit, rest.dropWhile Char.isDigit)
      | rest => ([], rest)
    if whole.isEmpty && places.isEmpty then none
    else
      let (exponent, rest) := readExponent rest
      let (value, isOutside) := ofDecimal (whole ++ places) (exponent - places.length)
      some (value, isOutside, rest)

def read? (t : Text) : Option (Bool × Fraction × Bool × Text) :=
  match t.dropWhile Arithmetic.isSpace with
  | '-' :: rest => (readMagnitude? rest).map (true, ·)
  | '+' :: rest => (readMagnitude? rest).map (false, ·)
  | rest => (readMagnitude? rest).map (false, ·)

/-!
# Writing
-/

def nearest (numerator denominator : Nat) : Nat :=
  let below := numerator / denominator
  let rest := 2 * (numerator % denominator)
  if rest < denominator || (rest == denominator && below % 2 == 0) then below else below + 1

def pointed (places : Nat) (keepsPoint : Bool) (n : Nat) : Text :=
  let digits := Text.ofNat n
  let padded := List.replicate (places + 1 - digits.length) '0' ++ digits
  let whole := padded.take (padded.length - places)
  if places == 0 then if keepsPoint then whole ++ ['.'] else whole
  else whole ++ '.' :: padded.drop (padded.length - places)

/-- The exponent of the greatest power of ten up to a value; zero has that of one. -/
def exponentOf (numerator denominator : Nat) : Int :=
  if numerator == 0 then 0
  else if denominator ≤ numerator then ((Text.ofNat (numerator / denominator)).length : Int) - 1
  else
    let near := (Text.ofNat denominator).length - (Text.ofNat numerator).length
    if denominator ≤ numerator * Nat.pow 10 near then -(near : Int) else -(near + 1 : Int)

def scientificDigits (places numerator denominator : Nat) : Nat × Int :=
  let exponent := exponentOf numerator denominator
  let shift := (places : Int) - exponent
  let digits := nearest (numerator * Nat.pow 10 shift.toNat) (denominator * Nat.pow 10 (-shift).toNat)
  if digits == Nat.pow 10 (places + 1) then (digits / 10, exponent + 1) else (digits, exponent)

def exponentText (exponent : Int) : Text :=
  let digits := Text.ofNat exponent.natAbs
  (if exponent < 0 then ['-'] else ['+']) ++ List.replicate (2 - digits.length) '0' ++ digits

def dropZeros (t : Text) : Text :=
  if List.contains t '.' then
    ((t.reverse.dropWhile (· == '0')).dropWhile (· == '.')).reverse
  else t

def toText (form : Char) (precision : Nat) (isMarked : Bool) : Fraction → Text
  | .infinite => "inf"
  | .notANumber => "nan"
  | .finite numerator denominator =>
      let scientific := fun (places : Nat) (trims : Bool) =>
        let (digits, exponent) := scientificDigits places numerator denominator
        let body := pointed places isMarked digits
        (if trims then dropZeros body else body) ++ 'e' :: exponentText exponent
      let positional := fun (places : Nat) (trims : Bool) =>
        let body := pointed places isMarked (nearest (numerator * Nat.pow 10 places) denominator)
        if trims then dropZeros body else body
      if form == 'e' then scientific precision false
      else if form == 'f' then positional precision false
      else
        let digits := max precision 1
        let (_, exponent) := scientificDigits (digits - 1) numerator denominator
        if -4 ≤ exponent && exponent < digits then
          positional ((digits : Int) - 1 - exponent).toNat (!isMarked)
        else scientific (digits - 1) (!isMarked)

end Fraction
end Shell
end StubAssist
