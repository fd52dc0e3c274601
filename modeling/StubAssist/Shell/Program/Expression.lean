import StubAssist.Shell.Regex.Match
import StubAssist.Shell.Regex.Reader
import StubAssist.Shell.Program

/-!
# Expressions in arguments

Each operand and operator of an expression is an argument of its own.  Values are texts;
those that are whole numbers can be calculated with.
-/

namespace StubAssist
namespace Shell
namespace Program

open Activity

namespace Expression

inductive Value where
  | number (n : Int)
  | text (t : Text)
deriving DecidableEq, Repr

inductive Flaw where
  | missingAfter (argument : Text)
  | unexpected (argument : Text)
  | unexpectedClosing
  | unclosedAfter (argument : Text)
  | unclosedBefore (argument : Text)
  | notANumber
  | divisionByZero
  | pattern (flaw : Regex.Flaw)
deriving DecidableEq, Repr

def Flaw.message : Flaw → Text
  | missingAfter t => "syntax error: missing argument after " ++ quote t
  | unexpected t => "syntax error: unexpected argument " ++ quote t
  | unexpectedClosing => "syntax error: unexpected ')'"
  | unclosedAfter t => "syntax error: expecting ')' after " ++ quote t
  | unclosedBefore t => "syntax error: expecting ')' instead of " ++ quote t
  | notANumber => "non-integer argument"
  | divisionByZero => "division by zero"
  | pattern flaw => flaw.message

namespace Value

def textOf (n : Int) : Text :=
  (if n < 0 then ['-'] else []) ++ Text.ofNat n.natAbs

def toText : Value → Text
  | number n => textOf n
  | text t => t

def toNumber? : Value → Option Int
  | number n => some n
  | text ('-' :: digits) =>
      if digits.isEmpty then none else (Text.digitsFrom? 0 digits).map fun n => -(n : Int)
  | text digits => if digits.isEmpty then none else (Text.digitsFrom? 0 digits).map Int.ofNat

def isNull : Value → Bool
  | number n => n == 0
  | text [] => true
  | text t =>
      let digits := if t.head? == some '-' then t.drop 1 else t
      !digits.isEmpty && digits.all (· == '0')

def ofBool (holds : Bool) : Value :=
  number (if holds then 1 else 0)

end Value

/-- What a text matches from its start: the first group if there is one, else how much. -/
def matchStart (t pattern : Text) : Except Flaw Value :=
  match Regex.parse .lenient pattern with
  | .error flaw => .error (.pattern flaw)
  | .ok regex =>
      let search := Regex.Search.of regex false (.ofText none t)
      match search.matchAt? 0, regex.groupCount with
      | some found, 0 => .ok (.number found.stop)
      | some found, _ =>
          match found.span? 1 with
          | some (start, stop) => .ok (.text (Regex.slice t start stop))
          | none => .ok (.text [])
      | none, 0 => .ok (.number 0)
      | none, _ => .ok (.text [])

/-- The part of a text from a position on; both numbers have to be such. -/
def part (t : Text) (position size : Option Int) : Text :=
  match position, size with
  | some position, some size =>
      if position < 1 || size < 1 then [] else (t.drop (position.toNat - 1)).take size.toNat
  | _, _ => []

def indexOfAny (t characters : Text) : Int :=
  match t.findIdx? (List.contains characters) with
  | some i => i + 1
  | none => 0

def calculate (operator : Text) (a b : Value) : Except Flaw Value :=
  match a.toNumber?, b.toNumber? with
  | some x, some y =>
      match operator with
      | ['+'] => .ok (.number (x + y))
      | ['-'] => .ok (.number (x - y))
      | ['*'] => .ok (.number (x * y))
      | ['/'] => if y == 0 then .error .divisionByZero else .ok (.number (x.tdiv y))
      | _ => if y == 0 then .error .divisionByZero else .ok (.number (x.tmod y))
  | _, _ => .error .notANumber

def compare (operator : Text) (a b : Value) : Value :=
  let (isLess, isEqual) :=
    match a.toNumber?, b.toNumber? with
    | some x, some y => (decide (x < y), x == y)
    | _, _ => (decide (a.toText < b.toText), a.toText == b.toText)
  .ofBool <|
    match operator with
    | ['<'] => isLess
    | ['<', '='] => isLess || isEqual
    | ['>'] => !isLess && !isEqual
    | ['>', '='] => !isLess
    | ['!', '='] => !isEqual
    | _ => isEqual

/-!
# Reading and evaluating
-/

/-- The arguments that are left, and the last that was used. -/
structure Cursor where
  rest : List Text
  last : Text

abbrev Reading := StateT Cursor (Except Flaw)

def accept? (words : List Text) : Reading (Option Text) := do
  match (← get).rest with
  | t :: rest =>
      if words.contains t then
        set (⟨rest, t⟩ : Cursor)
        return some t
      else return none
  | [] => return none

def next : Reading Text := do
  let cursor ← get
  match cursor.rest with
  | t :: rest =>
      set (⟨rest, t⟩ : Cursor)
      return t
  | [] => throw (.missingAfter cursor.last)

def demandMore : Reading Unit := do
  let cursor ← get
  if cursor.rest.isEmpty then throw (.missingAfter cursor.last)

inductive Level where
  | disjunction
  | conjunction
  | comparison
  | sum
  | product
  | pattern
deriving DecidableEq, Repr

namespace Level

def operators : Level → List Text
  | disjunction => ["|"]
  | conjunction => ["&"]
  | comparison => ["<", "<=", "=", "==", "!=", ">=", ">"]
  | sum => ["+", "-"]
  | product => ["*", "/", "%"]
  | pattern => [":"]

def next? : Level → Option Level
  | disjunction => some conjunction
  | conjunction => some comparison
  | comparison => some sum
  | sum => some product
  | product => some pattern
  | pattern => none

end Level

def needsRight (level : Level) (left : Value) : Bool :=
  match level with
  | .disjunction => left.isNull
  | .conjunction => !left.isNull
  | _ => true

def combine (level : Level) (operator : Text) (a b : Value) : Except Flaw Value :=
  match level with
  | .disjunction => .ok (if !a.isNull then a else if b.isNull then .number 0 else b)
  | .conjunction => .ok (if a.isNull || b.isNull then .number 0 else a)
  | .comparison => .ok (compare operator a b)
  | .sum | .product => calculate operator a b
  | .pattern => matchStart a.toText b.toText

mutual

/-- An expression with operators of a level, of which only the form counts if `isIdle`. -/
def atLevel : (fuel : Nat) → Level → (isIdle : Bool) → Reading Value
  | 0, _, _ => return .number 0
  | fuel + 1, level, isIdle => do
      let first ← operand fuel level isIdle
      further fuel level isIdle first

def operand : (fuel : Nat) → Level → (isIdle : Bool) → Reading Value
  | 0, _, _ => return .number 0
  | fuel + 1, level, isIdle =>
      match level.next? with
      | some stronger => atLevel fuel stronger isIdle
      | none => primary fuel isIdle

def further : (fuel : Nat) → Level → (isIdle : Bool) → Value → Reading Value
  | 0, _, _, left => return left
  | fuel + 1, level, isIdle, left => do
      match ← accept? level.operators with
      | none => return left
      | some operator =>
          let right ← operand fuel level (isIdle || !needsRight level left)
          let value ← if isIdle then pure left else
            match combine level operator left right with
            | .ok value => pure value
            | .error flaw => throw flaw
          further fuel level isIdle value

def primary : (fuel : Nat) → (isIdle : Bool) → Reading Value
  | 0, _ => return .number 0
  | fuel + 1, isIdle => do
      match ← accept? ["+", "length", "match", "index", "substr"] with
      | some ['+'] => return .text (← next)
      | some name =>
          let first ← primary fuel isIdle
          if name == "length" then return .number first.toText.length
          let second ← primary fuel isIdle
          if name == "match" then
            if isIdle then return first
            match matchStart first.toText second.toText with
            | .ok value => return value
            | .error flaw => throw flaw
          if name == "index" then return .number (indexOfAny first.toText second.toText)
          let third ← primary fuel isIdle
          return .text (part first.toText second.toNumber? third.toNumber?)
      | none =>
          demandMore
          match ← accept? ["(", ")"] with
          | some ['('] =>
              let value ← atLevel fuel .disjunction isIdle
              let cursor ← get
              if cursor.rest.isEmpty then throw (.unclosedAfter cursor.last)
              match ← accept? [")"] with
              | some _ => return value
              | none => throw (.unclosedBefore (cursor.rest.headD []))
          | some _ => throw .unexpectedClosing
          | none => return .text (← next)

end

def evaluate (arguments : List Text) : Except Flaw Value := do
  let fuel := 24 * (arguments.length + 2)
  let (value, cursor) ← (atLevel fuel .disjunction false).run ⟨arguments, []⟩
  match cursor.rest with
  | [] => return value
  | t :: _ => throw (.unexpected t)

end Expression

/-- Prints the value of an expression; the status says whether it counts as true. -/
def expr : Program := fun arguments => do
  if arguments.isEmpty then misuse 2 "missing operand"
  let arguments := if arguments.head? == some ['-', '-'] then arguments.drop 1 else arguments
  if arguments.isEmpty then misuse 2 "missing operand"
  match Expression.evaluate arguments with
  | .error flaw => fail 2 flaw.message
  | .ok value =>
      printLine value.toText
      setStatus (if value.isNull then 1 else 0)

end Program
end Shell
end StubAssist
