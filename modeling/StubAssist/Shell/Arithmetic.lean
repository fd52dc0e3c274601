import StubAssist.Shell.Bindings

/-!
# Arithmetic expressions

Whole numbers of 64 bits, with the operators and the binding strengths of C.
Evaluating may assign to bindings.
-/

namespace StubAssist
namespace Shell
namespace Arithmetic

inductive Sign where
  | number (value : Int)
  | name (name : Text)
  | operator (sign : Text)
  | stray (c : Char)
deriving DecidableEq, Repr

inductive Failure where
  | divisionByZero
  | expecting (what : Text)
  | illegalNumber (t : Text)
  | overflow
  | readOnly (name : Text)
deriving DecidableEq, Repr

def wrap (n : Int) : Int :=
  n.bmod (Nat.pow 2 64)

/-!
# Signs
-/

def hexValue? (c : Char) : Option Nat :=
  if c.isDigit then some (c.toNat - '0'.toNat)
  else if 'a' ≤ c && c ≤ 'f' then some (c.toNat - 'a'.toNat + 10)
  else if 'A' ≤ c && c ≤ 'F' then some (c.toNat - 'A'.toNat + 10)
  else none

def isSpace (c : Char) : Bool :=
  c == ' ' || ('\t' ≤ c && c ≤ '\r')

/-- The digits of a base at the start of a text, as a number, and the text after them. -/
def readDigits (base : Nat) : (value : Nat) → Text → Nat × Text
  | value, [] => (value, [])
  | value, c :: rest =>
      match hexValue? c with
      | some d => if d < base then readDigits base (base * value + d) rest else (value, c :: rest)
      | none => (value, c :: rest)

/-- A number as in C: hexadecimal after `0x`, octal after another zero. -/
def readNumber : Text → Nat × Text
  | '0' :: x :: c :: rest =>
      if (x == 'x' || x == 'X') && (hexValue? c).isSome then readDigits 16 0 (c :: rest)
      else readDigits 8 0 (x :: c :: rest)
  | '0' :: rest => readDigits 8 0 rest
  | t => readDigits 10 0 t

def readSigned? (read : Text → Nat × Text) (t : Text) : Option (Int × Text) :=
  let (factor, t) : Int × Text :=
    match t.dropWhile isSpace with
    | '-' :: rest => (-1, rest)
    | '+' :: rest => (1, rest)
    | rest => (1, rest)
  if (t.head?.map Char.isDigit).getD false then
    let (n, rest) := read t
    some (factor * n, rest)
  else none

def readInteger? : Text → Option (Int × Text) :=
  readSigned? readNumber

def readDecimal? : Text → Option (Int × Text) :=
  readSigned? (readDigits 10 0)

def isInRange (n : Int) : Bool :=
  -Int.pow 2 63 ≤ n && n < Int.pow 2 63

def clamp (n : Int) : Int :=
  max (-Int.pow 2 63) (min n (Int.pow 2 63 - 1))

def integerOf? (t : Text) : Option Int :=
  if t.all isSpace then some 0
  else
    match readInteger? t with
    | some (n, rest) => if isInRange n && rest.all isSpace then some n else none
    | none => none

def longOperators : List Text :=
  ["<<=", ">>=", "&&", "||", "==", "!=", "<=", ">=", "<<", ">>", "+=", "-=", "*=", "/=",
    "%=", "&=", "|=", "^="]

def shortOperators : List Char :=
  "+-*/%<>=!~&|^?:()".toList

def signs : (fuel : Nat) → Text → List Sign
  | 0, _ => []
  | _ + 1, [] => []
  | fuel + 1, c :: rest =>
      if c == ' ' || c == '\t' || c == '\n' then signs fuel rest
      else if c.isDigit then
        let (n, rest) := readNumber (c :: rest)
        .number (clamp n) :: signs fuel rest
      else if isNameStart c then
        .name (c :: rest.takeWhile isNameRest) :: signs fuel (rest.dropWhile isNameRest)
      else
        match longOperators.find? (·.isPrefixOf (c :: rest)) with
        | some sign => .operator sign :: signs fuel ((c :: rest).drop sign.length)
        | none =>
            (if shortOperators.contains c then .operator [c] else .stray c) :: signs fuel rest

/-!
# Operators
-/

/-- How strongly a binary operator binds, apart from "and" and "or", which bind least. -/
def strength? (sign : Text) : Option Nat :=
  (([["|"], ["^"], ["&"], ["==", "!="], ["<", "<=", ">", ">="], ["<<", ">>"],
    ["+", "-"], ["*", "/", "%"]] : List (List Text)).findIdx? (·.contains sign)).map (· + 1)

def ofBool (b : Bool) : Int :=
  if b then 1 else 0

def bits (n : Int) : Nat :=
  (n % Int.pow 2 64).toNat

def apply (sign : Text) (a b : Int) : Except Failure Int :=
  if sign == "|" then .ok (wrap (bits a ||| bits b : Nat))
  else if sign == "^" then .ok (wrap (bits a ^^^ bits b : Nat))
  else if sign == "&" then .ok (wrap (bits a &&& bits b : Nat))
  else if sign == "==" then .ok (ofBool (a == b))
  else if sign == "!=" then .ok (ofBool (a != b))
  else if sign == "<" then .ok (ofBool (a < b))
  else if sign == "<=" then .ok (ofBool (a ≤ b))
  else if sign == ">" then .ok (ofBool (b < a))
  else if sign == ">=" then .ok (ofBool (b ≤ a))
  else if sign == "<<" then .ok (wrap (a * Int.pow 2 (bits b % 64)))
  else if sign == ">>" then .ok (Int.fdiv a (Int.pow 2 (bits b % 64)))
  else if sign == "+" then .ok (wrap (a + b))
  else if sign == "-" then .ok (wrap (a - b))
  else if sign == "*" then .ok (wrap (a * b))
  else if b == 0 then .error .divisionByZero
  else if b == -1 && a == -Int.pow 2 63 then .error .overflow
  else if sign == "/" then .ok (Int.tdiv a b)
  else .ok (Int.tmod a b)

/-- The value of a variable; one that is unset or blank counts as zero. -/
def valueOf (bindings : Bindings) (name : Text) : Except Failure Int :=
  let t := (bindings.get? name).getD []
  match integerOf? t with
  | some n => .ok n
  | none => .error (.illegalNumber t)

def textOf (n : Int) : Text :=
  if n < 0 then '-' :: Text.ofNat n.natAbs else Text.ofNat n.natAbs

def assign (name : Text) (n : Int) (bindings : Bindings) : Except Failure Bindings :=
  match bindings.set? name (textOf n) with
  | some bindings => .ok bindings
  | none => .error (.readOnly name)

/-!
# Evaluation

What is not to be evaluated is only read; it counts as some number or other.
-/

abbrev Outcome := Except Failure (Int × List Sign × Bindings)

mutual

def whole : (fuel : Nat) → (isSkipped : Bool) → List Sign → Bindings → Outcome
  | 0, _, _, _ => .error (.expecting "primary")
  | fuel + 1, isSkipped, signs, bindings =>
      match signs with
      | .name name :: .operator sign :: rest =>
          if sign == "=" then do
            let (n, rest, after) ← whole fuel isSkipped rest bindings
            return (n, rest, ← if isSkipped then pure after else assign name n after)
          else if sign.getLast? == some '=' && (strength? sign).isNone then do
            let (n, rest, after) ← whole fuel isSkipped rest bindings
            if isSkipped then return (n, rest, after)
            else
              let n ← apply sign.dropLast (← valueOf after name) n
              return (n, rest, ← assign name n after)
          else conditional fuel isSkipped signs bindings
      | _ => conditional fuel isSkipped signs bindings

def conditional : (fuel : Nat) → (isSkipped : Bool) → List Sign → Bindings → Outcome
  | 0, _, _, _ => .error (.expecting "primary")
  | fuel + 1, isSkipped, signs, bindings => do
      let (test, rest, bindings) ← disjunction fuel isSkipped signs bindings
      match rest with
      | .operator ['?'] :: rest =>
          let (yes, rest, bindings) ← whole fuel (isSkipped || test == 0) rest bindings
          match rest with
          | .operator [':'] :: rest =>
              let (no, rest, bindings) ← conditional fuel (isSkipped || test != 0) rest bindings
              return (if test != 0 then yes else no, rest, bindings)
          | _ => throw (.expecting "':'")
      | _ => return (test, rest, bindings)

def disjunction : (fuel : Nat) → (isSkipped : Bool) → List Sign → Bindings → Outcome
  | 0, _, _, _ => .error (.expecting "primary")
  | fuel + 1, isSkipped, signs, bindings => do
      let (a, rest, bindings) ← conjunction fuel isSkipped signs bindings
      match rest with
      | .operator ['|', '|'] :: rest =>
          let (b, rest, bindings) ← disjunction fuel (isSkipped || a != 0) rest bindings
          return (ofBool (a != 0 || b != 0), rest, bindings)
      | _ => return (a, rest, bindings)

def conjunction : (fuel : Nat) → (isSkipped : Bool) → List Sign → Bindings → Outcome
  | 0, _, _, _ => .error (.expecting "primary")
  | fuel + 1, isSkipped, signs, bindings => do
      let (a, rest, bindings) ← binary fuel isSkipped 1 signs bindings
      match rest with
      | .operator ['&', '&'] :: rest =>
          let (b, rest, bindings) ← conjunction fuel (isSkipped || a == 0) rest bindings
          return (ofBool (a != 0 && b != 0), rest, bindings)
      | _ => return (a, rest, bindings)

def binary : (fuel : Nat) → (isSkipped : Bool) → (least : Nat) → List Sign → Bindings → Outcome
  | 0, _, _, _, _ => .error (.expecting "primary")
  | fuel + 1, isSkipped, least, signs, bindings => do
      let (n, rest, bindings) ← unary fuel isSkipped signs bindings
      continueBinary fuel isSkipped least n rest bindings

def continueBinary : (fuel : Nat) → (isSkipped : Bool) → (least : Nat) → Int → List Sign →
    Bindings → Outcome
  | 0, _, _, _, _, _ => .error (.expecting "primary")
  | fuel + 1, isSkipped, least, n, signs, bindings =>
      match signs with
      | .operator sign :: rest =>
          match strength? sign with
          | none => .ok (n, signs, bindings)
          | some strength =>
              if strength < least then .ok (n, signs, bindings)
              else do
                let (m, rest, bindings) ← binary fuel isSkipped (strength + 1) rest bindings
                let n ← if isSkipped then pure m else apply sign n m
                continueBinary fuel isSkipped least n rest bindings
      | _ => .ok (n, signs, bindings)

def unary : (fuel : Nat) → (isSkipped : Bool) → List Sign → Bindings → Outcome
  | 0, _, _, _ => .error (.expecting "primary")
  | fuel + 1, isSkipped, signs, bindings =>
      match signs with
      | .number n :: rest => .ok (n, rest, bindings)
      | .name name :: rest => do
          let n ← if isSkipped then pure 0 else valueOf bindings name
          return (n, rest, bindings)
      | .operator ['('] :: rest => do
          match ← whole fuel isSkipped rest bindings with
          | (n, .operator [')'] :: rest, bindings) => return (n, rest, bindings)
          | _ => throw (.expecting "')'")
      | .operator ['-'] :: rest => do
          let (n, rest, bindings) ← unary fuel isSkipped rest bindings
          return (wrap (-n), rest, bindings)
      | .operator ['+'] :: rest => unary fuel isSkipped rest bindings
      | .operator ['!'] :: rest => do
          let (n, rest, bindings) ← unary fuel isSkipped rest bindings
          return (ofBool (n == 0), rest, bindings)
      | .operator ['~'] :: rest => do
          let (n, rest, bindings) ← unary fuel isSkipped rest bindings
          return (wrap (-n - 1), rest, bindings)
      | _ => .error (.expecting "primary")

end

def evaluate (expression : Text) (bindings : Bindings) : Except Failure (Int × Bindings) := do
  let signs := signs (expression.length + 1) expression
  match ← whole (10 * signs.length + 10) false signs bindings with
  | (n, [], bindings) => return (n, bindings)
  | _ => throw (.expecting "EOF")

def Failure.message (expression : Text) : Failure → Text
  | divisionByZero => about "division by zero"
  | expecting what => about ("expecting " ++ what)
  | illegalNumber t => "Illegal number: " ++ t
  | overflow => []
  | readOnly name => name ++ ": is read only"
where
  about (t : Text) : Text :=
    "arithmetic expression: " ++ t ++ ": \"" ++ expression ++ ['"']

end Arithmetic
end Shell
end StubAssist
