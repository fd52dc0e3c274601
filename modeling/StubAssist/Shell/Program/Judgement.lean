import StubAssist.Shell.Condition
import StubAssist.Shell.Program

/-!
# Judging conditions

Conditions on texts, numbers and files, as a program takes them for its arguments.  What
a word means depends on how many of them there are, and all parts are judged even where
the first one decides.
-/

namespace StubAssist
namespace Shell
namespace Program

open Activity

namespace Judgement

/-- What judging is about: the files there are, and the last of all words. -/
structure Matter where
  files : FileTree
  last : Text

abbrev Judging := StateT (List Text) (Except Text)

def refuse {α : Type} (flaw : Text) : Judging α :=
  throw flaw

def missing {α : Type} (matter : Matter) : Judging α :=
  refuse ("missing argument after " ++ quote matter.last)

def advance : Judging Unit :=
  modify (List.drop 1)

def advanceTo (matter : Matter) : Judging Unit := do
  advance
  if (← get).isEmpty then missing matter

/-!
# Operators
-/

def binaryOperators : List Text :=
  ["=", "==", "!=", "-eq", "-ne", "-lt", "-le", "-gt", "-ge", "-nt", "-ot", "-ef"]

def isBinary (t : Text) : Bool :=
  binaryOperators.contains t

def unaryLetters : Text := "bcdefghknprstuwxzGLNOS"

def number (t : Text) : Judging Int := do
  let body := t.dropWhile isSpace
  let (isNegative, digits) : Bool × Text :=
    match body with
    | '-' :: digits => (true, digits)
    | '+' :: digits => (false, digits)
    | digits => (false, digits)
  let rest := digits.dropWhile Char.isDigit
  match Text.digitsFrom? 0 (digits.takeWhile Char.isDigit) with
  | some n =>
      if rest.all isSpace && (digits.head?.map Char.isDigit).getD false then
        return if isNegative then -(n : Int) else n
      else refuse ("invalid integer " ++ quote t)
  | none => refuse ("invalid integer " ++ quote t)

def time (files : FileTree) (path : Text) : Option Nat :=
  match files.lookup path with
  | .ok (_, node) => some (node.attributes.time + 1)
  | .error _ => none

def isNewer (files : FileTree) (a b : Text) : Bool :=
  (time files b).getD 0 < (time files a).getD 0

/-- Judges an operator between two operands, of which a number may be given as a length. -/
def binary (matter : Matter) (leftIsLength : Bool) : Judging Bool := do
  if leftIsLength then advance
  let words ← get
  let left := words.headD []
  let operator := (words.drop 1).headD []
  let after := words.drop 2
  let rightIsLength := after.head? == some "-l".toList && 2 ≤ after.length
  let after := if rightIsLength then after.drop 1 else after
  let right := after.headD []
  let size := fun (isLength : Bool) (t : Text) =>
    if isLength then (pure (t.length : Int) : Judging Int) else number t
  let holds ←
    match operator with
    | ['='] | ['=', '='] => pure (left == right)
    | ['!', '='] => pure (left != right)
    | ['-', 'n', 't'] => pure (isNewer matter.files left right)
    | ['-', 'o', 't'] => pure (isNewer matter.files right left)
    | ['-', 'e', 'f'] => pure (Condition.isSameFile matter.files left right)
    | _ => do
        let a ← size leftIsLength left
        let b ← size rightIsLength right
        pure <|
          if operator == "-eq" then a == b
          else if operator == "-ne" then a != b
          else if operator == "-lt" then decide (a < b)
          else if operator == "-le" then decide (a ≤ b)
          else if operator == "-gt" then decide (b < a)
          else decide (b ≤ a)
  set (after.drop 1)
  return holds

def looksUnary (t : Text) : Bool :=
  match t with
  | ['-', _] => true
  | _ => false

def unary (matter : Matter) : Judging Bool := do
  let operator := (← get).headD []
  match operator with
  | ['-', letter] =>
      if !List.contains unaryLetters letter then
        refuse (quote operator ++ ": unary operator expected")
      advanceTo matter
      let operand := (← get).headD []
      advance
      if letter == 't' then
        let _ ← number operand
        return false
      else
        match Condition.unary matter.files operator operand with
        | .ok holds => return holds
        | .error _ => return false
  | _ => refuse (quote operator ++ ": unary operator expected")

def single : Judging Bool := do
  let word := (← get).headD []
  advance
  return !word.isEmpty

def pair (matter : Matter) : Judging Bool := do
  let word := (← get).headD []
  if word == "!" then
    advance
    return !(← single)
  else if looksUnary word then unary matter
  else missing matter

mutual

def judge (matter : Matter) : (fuel : Nat) → (count : Nat) → Judging Bool
  | 0, _ => return false
  | fuel + 1, count => do
      let words ← get
      let first := words.headD []
      match count with
      | 0 => return false
      | 1 => single
      | 2 => pair matter
      | 3 => triple matter fuel
      | 4 =>
          if first == "!" then
            advanceTo matter
            return !(← triple matter fuel)
          else if first == "(" && (words.drop 3).head? == some [')'] then
            advance
            let holds ← pair matter
            advance
            return holds
          else disjunction matter fuel
      | _ => disjunction matter fuel
termination_by structural fuel => fuel

def triple (matter : Matter) : (fuel : Nat) → Judging Bool
  | 0 => return false
  | fuel + 1 => do
      let words ← get
      let first := words.headD []
      let second := (words.drop 1).headD []
      if isBinary second then binary matter false
      else if first == "!" then
        advanceTo matter
        return !(← pair matter)
      else if first == "(" && (words.drop 2).head? == some [')'] then
        advance
        let holds ← single
        advance
        return holds
      else if second == "-a" || second == "-o" then disjunction matter fuel
      else refuse (quote second ++ ": binary operator expected")
termination_by structural fuel => fuel

def disjunction (matter : Matter) : (fuel : Nat) → Judging Bool
  | 0 => return false
  | fuel + 1 => do
      let holds ← conjunction matter fuel
      if (← get).head? == some "-o".toList then
        advance
        let more ← disjunction matter fuel
        return holds || more
      else return holds
termination_by structural fuel => fuel

def conjunction (matter : Matter) : (fuel : Nat) → Judging Bool
  | 0 => return false
  | fuel + 1 => do
      let holds ← term matter fuel
      if (← get).head? == some "-a".toList then
        advance
        let more ← conjunction matter fuel
        return holds && more
      else return holds
termination_by structural fuel => fuel

def term (matter : Matter) : (fuel : Nat) → Judging Bool
  | 0 => return false
  | fuel + 1 => do
      let words ← get
      match words with
      | [] => missing matter
      | word :: rest =>
          if word == "!" then
            advanceTo matter
            return !(← term matter fuel)
          else if word == "(" then
            advanceTo matter
            let close := (rest.drop 1).findIdx? fun (t : Text) => t == ")"
            let count := match close with
              | some i => if i < 3 then i + 1 else rest.length
              | none => rest.length
            let holds ← judge matter fuel count
            match ← get with
            | [] => refuse "')' expected"
            | [')'] :: _ =>
                advance
                return holds
            | found :: _ => refuse ("')' expected, found " ++ quote found)
          else if 4 ≤ words.length && word == "-l" && isBinary ((words.drop 2).headD []) then
            binary matter true
          else if 3 ≤ words.length && isBinary (rest.headD []) then binary matter false
          else if looksUnary word then unary matter
          else single
termination_by structural fuel => fuel

end

def whole (files : FileTree) (words : List Text) : Except Text Bool := do
  let matter : Matter := ⟨files, words.getLastD []⟩
  match (judge matter (8 * words.length + 16) words.length).run words with
  | .ok (holds, []) => return holds
  | .ok (_, word :: _) => throw ("extra argument " ++ quote word)
  | .error flaw => throw flaw

def decide (words : List Text) : Activity Unit := do
  match whole (← files) words with
  | .ok true => return ()
  | .ok false => setStatus 1
  | .error flaw => fail 2 flaw

end Judgement

def test : Program :=
  Judgement.decide

def bracket : Program := fun arguments => do
  if arguments.getLast? == some [']'] then Judgement.decide arguments.dropLast
  else fail 2 "missing ']'"

end Program
end Shell
end StubAssist
