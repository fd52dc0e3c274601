import StubAssist.Shell.Format
import StubAssist.Shell.Program

/-!
# Sequences of numbers

Numbers from one to another in steps, as exact fractions.
-/

namespace StubAssist
namespace Shell
namespace Program

open Activity

namespace Sequence

structure Number where
  numerator : Int
  denominator : Nat
deriving DecidableEq, Repr

/-- A number as it was given, with the places after its point and the columns that it takes. -/
structure Operand where
  value : Number
  /-- The places, unless the number was given in some other notation. -/
  places : Option Nat
  width : Nat
  isInfinite : Bool
  isNegativeZero : Bool
deriving DecidableEq, Repr

namespace Number

def add (a b : Number) : Number :=
  if a.denominator == b.denominator then ⟨a.numerator + b.numerator, a.denominator⟩
  else
    ⟨a.numerator * b.denominator + b.numerator * a.denominator, a.denominator * b.denominator⟩

def times (n : Nat) (a : Number) : Number :=
  ⟨a.numerator * n, a.denominator⟩

/-- How many steps it takes from one number to the last one that is not beyond another. -/
def steps (first step last : Number) : Nat :=
  let d : Int := first.denominator * step.denominator * last.denominator
  let scaled := fun (a : Number) => a.numerator * (d / a.denominator)
  let distance := scaled last - scaled first
  let step := scaled step
  if step == 0 || (step < 0) != (distance < 0) && distance != 0 then
    (if distance == 0 then 1 else 0)
  else distance.natAbs / step.natAbs + 1

end Number

def decimal? (t : Text) : Option (Nat × Nat × Text) :=
  let whole := t.takeWhile Char.isDigit
  let (places, rest) :=
    match t.dropWhile Char.isDigit with
    | '.' :: rest => (rest.takeWhile Char.isDigit, rest.dropWhile Char.isDigit)
    | rest => ([], rest)
  if whole.isEmpty && places.isEmpty then none
  else
    let (exponent, rest) := Fraction.readExponent rest
    (Text.digitsFrom? 0 (whole ++ places)).map fun digits =>
      (digits * Nat.pow 10 exponent.toNat, Nat.pow 10 (places.length + (-exponent).toNat), rest)

inductive Flaw where
  | notANumber
  | notFloating
deriving DecidableEq, Repr

/-- The places and the width of a number in decimal notation, without its sign for plus. -/
def shape (t : Text) : Option Nat × Nat :=
  let t := t.dropWhile fun c => isSpace c || c == '+'
  let (body, exponent) :=
    match t.span fun c => c != 'e' && c != 'E' with
    | (body, _ :: exponent) => (body, exponent)
    | (body, []) => (body, [])
  let exponent : Int :=
    match exponent with
    | '-' :: digits => -((Text.digitsFrom? 0 digits).getD 0)
    | '+' :: digits => (Text.digitsFrom? 0 digits).getD 0
    | digits => (Text.digitsFrom? 0 digits).getD 0
  let (hasPoint, places, adjustment) : Bool × Nat × Int :=
    match Text.splitFirst '.' body with
    | none => (false, 0, 0)
    | some (before, after) =>
        let isBare := !((before.getLast?.map Char.isDigit).getD false)
        (true, after.length, if after.isEmpty then -1 else if isBare then 1 else 0)
  let width := (body.length : Int) + adjustment
  if exponent < 0 then
    let wider := if hasPoint then (if places == 0 then 1 else 0) else 1
    (some (places + exponent.natAbs), (width + wider + exponent.natAbs).toNat)
  else (some (places - exponent.toNat), (width + exponent).toNat)

def operand (t : Text) : Except Flaw Operand :=
  let isHex := List.contains t 'x' || List.contains t 'X'
  match Fraction.read? t with
  | some (isNegative, value, _, []) =>
      match value with
      | .notANumber => .error .notANumber
      | .infinite => .ok ⟨⟨if isNegative then -1 else 1, 1⟩, none, 0, true, false⟩
      | .finite numerator denominator =>
          let sign : Int := if isNegative then -1 else 1
          let body := (t.dropWhile isSpace).dropWhile fun c => c == '+' || c == '-'
          let value : Number :=
            match if isHex then none else decimal? body with
            | some (numerator, denominator, _) => ⟨sign * numerator, denominator⟩
            | none => ⟨sign * numerator, denominator⟩
          let (places, width) := if isHex then (some 0, 0) else shape t
          .ok ⟨value, places, width, false, isNegative && numerator == 0⟩
  | _ => .error .notFloating

/-!
# Formats
-/

structure Layout where
  before : Text
  directive : Format.Directive
  after : Text

def upToDirective : Text → Text × Option Text
  | [] => ([], none)
  | '%' :: '%' :: rest =>
      let (before, after) := upToDirective rest
      ('%' :: before, after)
  | '%' :: rest => ([], some rest)
  | c :: rest =>
      let (before, after) := upToDirective rest
      (c :: before, after)

def layout (format : Text) : Except Text Layout := do
  let complain := fun (flaw : Text) =>
    (throw ("format " ++ quote format ++ flaw) : Except Text Layout)
  match upToDirective format with
  | (_, none) => complain " has no % directive"
  | (before, some rest) =>
      let isFlag := fun c => List.contains "-+#0 '".toList c
      let flags := rest.takeWhile isFlag
      let rest := rest.dropWhile isFlag
      let width := rest.takeWhile Char.isDigit
      let rest := rest.dropWhile Char.isDigit
      let (precision, rest) : Option Nat × Text :=
        match rest with
        | '.' :: rest =>
            (some ((Text.digitsFrom? 0 (rest.takeWhile Char.isDigit)).getD 0),
              rest.dropWhile Char.isDigit)
        | rest => (none, rest)
      let rest := if rest.head? == some 'L' then rest.drop 1 else rest
      match rest with
      | [] => complain " ends in %"
      | c :: rest =>
          if !List.contains "efgaEFGA".toList c then
            complain (" has unknown %" ++ c :: " directive".toList)
          else
            match upToDirective rest with
            | (_, some _) => complain " has too many % directives"
            | (after, none) =>
                return {
                  before := before
                  directive :=
                    { leftAligned := List.contains flags '-'
                      zeroFilled := List.contains flags '0'
                      plusSign := List.contains flags '+'
                      blankSign := List.contains flags ' '
                      marked := List.contains flags '#'
                      width := (Text.digitsFrom? 0 width).getD 0
                      precision := precision
                      conversion := c }
                  after := after }

def Layout.show (layout : Layout) (isNegativeZero : Bool) (n : Number) : Text :=
  let fraction := Fraction.finite n.numerator.natAbs n.denominator
  let isNegative := n.numerator < 0 || isNegativeZero
  layout.before ++ Octets.ofBytes (layout.directive.fraction isNegative fraction) ++ layout.after

/-- The layout with as many places as are needed, and all numbers as wide if that is wanted. -/
def defaultLayout (isEqualWidth : Bool) (first step last : Operand) : Layout :=
  let directive : Format.Directive :=
    { leftAligned := false, zeroFilled := false, plusSign := false, blankSign := false,
      marked := false, width := 0, precision := none, conversion := 'g' }
  match first.places, step.places, last.places with
  | some a, some b, some c =>
      let places := max a b
      let width := fun (operand : Operand) (own : Nat) =>
        let point : Int :=
          if own != 0 && places == 0 then -1 else if own == 0 && places != 0 then 1 else 0
        ((operand.width : Int) + places - own + point).toNat
      let directive := { directive with conversion := 'f', precision := some places }
      if isEqualWidth then
        let width := max (width first a) (width last c)
        ⟨[], { directive with zeroFilled := true, width := width }, []⟩
      else ⟨[], directive, []⟩
  | _, _, _ => ⟨[], directive, []⟩

def takesNext : Text → Bool
  | '-' :: '-' :: word =>
      !word.isEmpty && (word.isPrefixOf "separator".toList || word.isPrefixOf "format".toList)
  | '-' :: letters =>
      let rest := letters.dropWhile (· == 'w')
      rest == ['s'] || rest == ['f']
  | _ => false

/-- Arguments with a mark in front of a negative number that comes first, which is no option. -/
def protect : List Text → List Text
  | [] => []
  | argument :: rest =>
      match argument, rest with
      | '-' :: c :: _, rest =>
          if c.isDigit || c == '.' then "--".toList :: argument :: rest
          else if takesNext argument then
            match rest with
            | value :: rest => argument :: value :: protect rest
            | [] => [argument]
          else argument :: protect rest
      | _, rest => argument :: rest

def forms : OptionForms where
  letters := "f:s:w"
  words := [("equal-width", 'w', .no), ("format", 'f', .yes), ("separator", 's', .yes)]
  isOrdered := true

def read (t : Text) : Activity Operand := do
  match operand t with
  | .ok operand => return operand
  | .error .notANumber => misuse 1 ("invalid 'not-a-number' argument: " ++ quote t)
  | .error .notFloating => misuse 1 ("invalid floating point argument: " ++ quote t)

/-- As many numbers as stand for a sequence without end, or for one that is too long. -/
def manySteps : Nat := 20000

def longest : Nat := 2000000

end Sequence

def seq : Program := fun arguments => do
  let given ← given 1 Sequence.forms (Sequence.protect arguments)
  demandOperand given.operands
  refuseExtra 1 3 given.operands
  let layout ←
    match given.value? 'f' with
    | none => pure none
    | some format =>
        match Sequence.layout format with
        | .ok layout => pure (some layout)
        | .error flaw => fail 1 flaw
  let one : Sequence.Operand := ⟨⟨1, 1⟩, some 0, 1, false, false⟩
  let (first, step, last) ←
    match given.operands with
    | [last] => do pure (one, one, ← Sequence.read last)
    | [first, last] => do pure (← Sequence.read first, one, ← Sequence.read last)
    | first :: step :: last :: _ => do
        let start ← Sequence.read first
        let interval ← Sequence.read step
        if interval.value.numerator == 0 && !interval.isInfinite then
          misuse 1 ("invalid Zero increment value: " ++ quote step)
        pure (start, interval, ← Sequence.read last)
    | [] => pure (one, one, one)
  if layout.isSome && given.has 'w' then
    misuse 1 "format string may not be specified when printing equal width strings"
  let layout := layout.getD (Sequence.defaultLayout (given.has 'w') first step last)
  let separator := (given.value? 's').getD ['\n']
  let isInfinite := last.isInfinite && (last.value.numerator < 0) == (step.value.numerator < 0)
  let count :=
    if isInfinite then Sequence.longest + 1
    else if first.isInfinite || last.isInfinite then 0
    else Sequence.Number.steps first.value step.value last.value
  let isEndless := Sequence.longest < count
  let count := if isEndless then Sequence.manySteps else count
  let shown := (List.range count).map fun i =>
    let n := first.value.add (step.value.times i)
    layout.show (i == 0 && first.isNegativeZero) n
  if count != 0 then print (Text.joinWith separator shown ++ ['\n'])
  if isEndless then continueForever

end Program
end Shell
end StubAssist
