import StubAssist.Shell.Program

/-!
# Prime factors
-/

namespace StubAssist
namespace Shell
namespace Program

open Activity

namespace Factoring

def powMod (modulus : Nat) : (fuel : Nat) → (base exponent : Nat) → Nat
  | 0, _, _ => 1 % modulus
  | fuel + 1, base, exponent =>
      if exponent == 0 then 1 % modulus
      else
        let rest := powMod modulus fuel (base * base % modulus) (exponent / 2)
        if exponent % 2 == 1 then base * rest % modulus else rest

def halvings : (fuel : Nat) → Nat → Nat
  | 0, _ => 0
  | fuel + 1, n => if n % 2 == 0 then halvings fuel (n / 2) + 1 else 0

def reachesMinusOne (modulus : Nat) : (steps : Nat) → Nat → Bool
  | 0, _ => false
  | steps + 1, x => x == modulus - 1 || reachesMinusOne modulus steps (x * x % modulus)

def passes (n base : Nat) : Bool :=
  let length := n.log2 + 1
  let count := halvings length (n - 1)
  let x := powMod n length (base % n) ((n - 1) / Nat.pow 2 count)
  base % n == 0 || x == 1 || reachesMinusOne n count x

/-- Whether a number is prime; up to 3·10²⁴ these bases show it. -/
def isPrime (n : Nat) : Bool :=
  let bases := [2, 3, 5, 7, 11, 13, 17, 19, 23, 29, 31, 37, 41]
  List.contains bases n || (1 < n && n % 2 == 1 && bases.all (passes n))

def factorsFrom : (fuel : Nat) → (divisor n : Nat) → List Nat
  | 0, _, n => [n]
  | fuel + 1, divisor, n =>
      if n < 2 then []
      else if n < divisor * divisor then [n]
      else if n % divisor == 0 then
        let rest := n / divisor
        divisor :: (if isPrime rest then [rest] else factorsFrom fuel divisor rest)
      else factorsFrom fuel (if divisor == 2 then 3 else divisor + 2) n

def factors (n : Nat) : List Nat :=
  if n < 2 then []
  else if isPrime n then [n]
  else factorsFrom (n.sqrt + n.log2 + 2) 2 n

def powers : List Nat → List Text
  | [] => []
  | n :: rest =>
      let count := (rest.takeWhile (· == n)).length + 1
      let shown := if count == 1 then Text.ofNat n else Text.ofNat n ++ '^' :: Text.ofNat count
      match count - 1 with
      | 0 => shown :: powers rest
      | more => shown :: powersAfter more rest
where
  powersAfter : (count : Nat) → List Nat → List Text
    | _, [] => []
    | 0, rest => powers rest
    | count + 1, _ :: rest => powersAfter count rest

def line (asPowers : Bool) (n : Nat) : Text :=
  let found := factors n
  let shown := if asPowers then powers found else found.map Text.ofNat
  Text.ofNat n ++ ':' :: shown.flatMap fun t => ' ' :: t

def showFactors (asPowers : Bool) (t : Text) : Activity Unit := do
  let bare := t.dropWhile isBlank
  let digits := match bare with
    | '+' :: rest => rest
    | _ => bare
  match if digits.isEmpty then none else Text.digitsFrom? 0 digits with
  | some n => printLine (line asPowers n)
  | none => complain (quote t ++ " is not a valid positive integer")

def wordsOf (t : Text) : List Text :=
  (Text.splitBy (fun c => isBlank c || c == '\n') t).filter (!·.isEmpty)

end Factoring

def factor : Program := fun arguments => do
  let given ← given 1 ⟨"h", [("exponents", 'h', .no)], false⟩ arguments
  let asPowers := given.has 'h'
  if given.operands.isEmpty then
    match ← contents ['-'] with
    | .ok t => for word in Factoring.wordsOf t do Factoring.showFactors asPowers word
    | .error error => complain ("error reading input: " ++ reason error)
  else
    for operand in given.operands do Factoring.showFactors asPowers operand

end Program
end Shell
end StubAssist
