import StubAssist.Shell.Fraction

/-!
# Extended numbers

Floating-point numbers with 64 significant bits: how they are read, to which a value is
rounded, and how they are written with hexadecimal digits.
-/

namespace StubAssist
namespace Shell
namespace Extended

def leastExponent : Int := -16445

def greatestExponent : Nat := 16384

/-- The significant bits of a value that is not zero, with the exponent of the last one. -/
def bits (numerator denominator : Nat) : Nat × Int :=
  let scaled := fun (exponent : Int) =>
    (numerator * Nat.pow 2 (-exponent).toNat, denominator * Nat.pow 2 exponent.toNat)
  let near : Int := (numerator.log2 : Int) - denominator.log2 - 63
  let (n, d) := scaled near
  let exponent := max leastExponent (if n < Nat.pow 2 63 * d then near - 1 else near)
  let (n, d) := scaled exponent
  let significand := Fraction.nearest n d
  if significand == Nat.pow 2 64 then (Nat.pow 2 63, exponent + 1) else (significand, exponent)

def ofQuotient (numerator denominator : Nat) : Fraction × Bool :=
  if numerator == 0 then (.finite 0 1, false)
  else
    let (significand, exponent) := bits numerator denominator
    let n := significand * Nat.pow 2 exponent.toNat
    let d := Nat.pow 2 (-exponent).toNat
    if Nat.pow 2 greatestExponent * d ≤ n then (.infinite, true)
    else (.finite n d, significand < Nat.pow 2 63 && n * denominator != d * numerator)

/-!
# Reading
-/

/-- Digits around a point: their value, how many come after the point, and the text after them. -/
def readPointed? (base : Nat) (value? : Char → Option Nat) (t : Text) : Option (Nat × Nat × Text) :=
  let isDigit := fun c => (value? c).isSome
  let whole := t.takeWhile isDigit
  let (places, rest) :=
    match t.dropWhile isDigit with
    | '.' :: rest => (rest.takeWhile isDigit, rest.dropWhile isDigit)
    | rest => ([], rest)
  if whole.isEmpty && places.isEmpty then none
  else
    some ((whole ++ places).foldl (fun n c => base * n + (value? c).getD 0) 0,
      places.length, rest)

def readExponent (letter : Char) (t : Text) : Int × Text :=
  match t with
  | c :: rest =>
      let (factor, rest) : Int × Text :=
        match rest with
        | '-' :: rest => (-1, rest)
        | '+' :: rest => (1, rest)
        | rest => (1, rest)
      let digits := rest.takeWhile Char.isDigit
      if c.toLower == letter && !digits.isEmpty then
        (factor * (Text.digitsFrom? 0 digits).getD 0, rest.dropWhile Char.isDigit)
      else (0, t)
  | [] => (0, [])

/-- The number nearest to `n * base ^ exponent`, where `size` is about the size of `n` in digits. -/
def scaled (base n size : Nat) (exponent : Int) : Fraction × Bool :=
  if n == 0 then (.finite 0 1, false)
  else if 20000 < exponent + size then (.infinite, true)
  else if exponent + size < -20000 then (.finite 0 1, true)
  else ofQuotient (n * Nat.pow base exponent.toNat) (Nat.pow base (-exponent).toNat)

def decimalDigit? (c : Char) : Option Nat :=
  if c.isDigit then some (c.toNat - '0'.toNat) else none

def hexDigit? (c : Char) : Option Nat :=
  if c.isDigit then some (c.toNat - '0'.toNat)
  else if 'a' ≤ c.toLower && c.toLower ≤ 'f' then some (c.toLower.toNat - 'a'.toNat + 10)
  else none

/-- What follows the name of what is no number, which can have a remark in brackets. -/
def skipRemark (t : Text) : Text :=
  match t with
  | '(' :: rest =>
      match rest.dropWhile fun c => c.isAlphanum || c == '_' with
      | ')' :: after => after
      | _ => t
  | _ => t

/--
A number without a sign at the start of a text: its value, whether that is out of the
range, and the text after it.
-/
def readMagnitude? (t : Text) : Option (Fraction × Bool × Text) :=
  let word := fun (name : Text) => (t.take name.length).map Char.toLower == name
  if word "infinity" then some (.infinite, false, t.drop 8)
  else if word "inf" then some (.infinite, false, t.drop 3)
  else if word "nan" then some (.notANumber, false, skipRemark (t.drop 3))
  else
    match if word "0x" then readPointed? 16 hexDigit? (t.drop 2) else none with
    | some (n, places, rest) =>
        let (exponent, rest) := readExponent 'p' rest
        let (value, isOutside) := scaled 2 n (n.log2 + 1) (exponent - 4 * places)
        some (value, isOutside, rest)
    | none => do
        let (n, places, rest) ← readPointed? 10 decimalDigit? t
        let (exponent, rest) := readExponent 'e' rest
        let (value, isOutside) := scaled 10 n (Text.ofNat n).length (exponent - places)
        return (value, isOutside, rest)

def read? (t : Text) : Option (Bool × Fraction × Bool × Text) :=
  match t.dropWhile Arithmetic.isSpace with
  | '-' :: rest => (readMagnitude? rest).map (true, ·)
  | '+' :: rest => (readMagnitude? rest).map (false, ·)
  | rest => (readMagnitude? rest).map (false, ·)

/-!
# Writing
-/

def hexDigits (count n : Nat) : Text :=
  let digits := Nat.toDigits 16 n
  List.replicate (count - digits.length) '0' ++ digits

/-- A number with hexadecimal digits and the exponent of two, without its sign and its mark. -/
def hexText (precision : Option Nat) (isMarked : Bool) : Fraction → Text
  | .infinite => "inf"
  | .notANumber => "nan"
  | .finite numerator denominator =>
      let (significand, exponent) :=
        if numerator == 0 then (0, (0 : Int))
        else
          let (significand, exponent) := bits numerator denominator
          (significand, exponent + 60)
      let places := precision.getD 15
      let rounded :=
        if places < 15 then Fraction.nearest significand (Nat.pow 16 (15 - places))
        else significand * Nat.pow 16 (places - 15)
      let (rounded, exponent) :=
        if rounded == Nat.pow 16 (places + 1) then (rounded / 16, exponent + 4) else (rounded, exponent)
      let digits := hexDigits (places + 1) rounded
      let after := digits.drop 1
      let after :=
        if precision.isNone then (after.reverse.dropWhile (· == '0')).reverse else after
      digits.take 1 ++ (if after.isEmpty && !isMarked then [] else '.' :: after) ++
        'p' :: (if exponent < 0 then '-' else '+') :: Text.ofNat exponent.natAbs

end Extended
end Shell
end StubAssist
