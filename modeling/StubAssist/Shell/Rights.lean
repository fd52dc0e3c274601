import StubAssist.Shell.Files

/-!
# Rights

The rights on files as twelve bits, how they are shown, and descriptions of changes: an
octal number, or clauses that say who gets, keeps or loses which rights.
-/

namespace StubAssist
namespace Shell
namespace Rights

def all : Nat := 0o7777

def readBits : Nat := 0o444

def writeBits : Nat := 0o222

def executeBits : Nat := 0o111

def without (mode bits : Nat) : Nat :=
  mode &&& (all ^^^ (bits &&& all))

inductive Grant where
  | bits (value : Nat)
  | bitsAndUse (value : Nat)
  | copied (source : Nat)
deriving DecidableEq, Repr

inductive Operator where
  | assign
  | add
  | remove
deriving DecidableEq, Repr

/-- One change; nobody in particular means everyone as far as the mask allows. -/
structure Change where
  affected : Nat
  operator : Operator
  grant : Grant
  mentioned : Nat
deriving DecidableEq, Repr

/-!
# Applying changes
-/

def spread (bits : Nat) : Nat :=
  (if bits &&& readBits != 0 then readBits else 0) |||
    (if bits &&& writeBits != 0 then writeBits else 0) |||
    (if bits &&& executeBits != 0 then executeBits else 0)

def applyChange (isDirectory : Bool) (mask mode : Nat) (change : Change) : Nat :=
  let special := if isDirectory then without 0o6000 change.mentioned else 0
  let value :=
    match change.grant with
    | .bits value => value
    | .bitsAndUse value =>
        if isDirectory || mode &&& executeBits != 0 then value ||| executeBits else value
    | .copied source => spread (mode &&& source)
  let scope := if change.affected == 0 then without all mask else change.affected
  let value := without (value &&& scope) special
  match change.operator with
  | .add => mode ||| value
  | .remove => without mode value
  | .assign =>
      let kept := (if change.affected == 0 then 0 else without all change.affected) ||| special
      (mode &&& kept) ||| value

def apply (isDirectory : Bool) (mask : Nat) (changes : List Change) (mode : Nat) : Nat :=
  changes.foldl (applyChange isDirectory mask) mode

/-!
# Reading descriptions
-/

def isOctalDigit (c : Char) : Bool :=
  '0' ≤ c && c ≤ '7'

def octal (digits : Text) : Nat :=
  digits.foldl (fun n c => 8 * n + (c.toNat - '0'.toNat)) 0

def class? (c : Char) : Option Nat :=
  match c with
  | 'u' => some 0o4700
  | 'g' => some 0o2070
  | 'o' => some 0o1007
  | 'a' => some all
  | _ => none

/-- The rights that letters mean, and whether the one to execute where it makes sense is there. -/
def letterBits : Text → Option (Nat × Bool)
  | [] => some (0, false)
  | c :: rest => do
      let (bits, isConditional) ← letterBits rest
      match c with
      | 'r' => some (bits ||| readBits, isConditional)
      | 'w' => some (bits ||| writeBits, isConditional)
      | 'x' => some (bits ||| executeBits, isConditional)
      | 'X' => some (bits, true)
      | 's' => some (bits ||| 0o6000, isConditional)
      | 't' => some (bits ||| 0o1000, isConditional)
      | _ => none

def operator? (c : Char) : Option Operator :=
  match c with
  | '=' => some .assign
  | '+' => some .add
  | '-' => some .remove
  | _ => none

def change? (affected : Nat) (operator : Operator) (t : Text) : Option Change :=
  match t with
  | ['u'] => some ⟨affected, operator, .copied 0o700, affected⟩
  | ['g'] => some ⟨affected, operator, .copied 0o070, affected⟩
  | ['o'] => some ⟨affected, operator, .copied 0o007, affected⟩
  | _ =>
      if !t.isEmpty && t.all isOctalDigit then
        if affected == 0 && octal t ≤ all then some ⟨all, operator, .bits (octal t), all⟩ else none
      else do
        let (bits, isConditional) ← letterBits t
        let grant := if isConditional then Grant.bitsAndUse bits else .bits bits
        some ⟨affected, operator, grant, if affected == 0 then bits else affected &&& bits⟩

def changes? (affected : Nat) : (fuel : Nat) → Text → Option (List Change)
  | 0, _ => none
  | _, [] => some []
  | fuel + 1, c :: rest => do
      let operator ← operator? c
      let isOperand := fun c => (operator? c).isNone
      let change ← change? affected operator (rest.takeWhile isOperand)
      some (change :: (← changes? affected fuel (rest.dropWhile isOperand)))

def clause? (t : Text) : Option (List Change) :=
  let users := t.takeWhile fun c => (class? c).isSome
  let affected := (users.filterMap class?).foldl (· ||| ·) 0
  let rest := t.drop users.length
  if rest.isEmpty then none else changes? affected (rest.length + 1) rest

def parse? (t : Text) : Option (List Change) :=
  if t.isEmpty then none
  else if t.all isOctalDigit then
    if octal t ≤ all then
      let mentioned := if t.length < 5 then (octal t &&& 0o7000) ||| 0o777 else all
      some [⟨all, .assign, .bits (octal t), mentioned⟩]
    else none
  else ((Text.splitBy (· == ',') t).mapM clause?).map List.flatten

/-!
# Showing rights
-/

/-- The rights of a class of users in three letters; its special right shows in the last. -/
def classText (mode shift special : Nat) (letter : Char) : Text :=
  let bit := fun (n : Nat) => mode / shift &&& n != 0
  let isSpecial := mode &&& special != 0
  let last := match bit 1, isSpecial with
    | true, true => letter
    | false, true => letter.toUpper
    | true, false => 'x'
    | false, false => '-'
  [if bit 4 then 'r' else '-', if bit 2 then 'w' else '-', last]

def toText (mode : Nat) : Text :=
  classText mode 0o100 0o4000 's' ++ classText mode 0o10 0o2000 's' ++ classText mode 1 0o1000 't'

def toOctal (mode : Nat) : Text :=
  let digits := Nat.toDigits 8 mode
  List.replicate (4 - digits.length) '0' ++ digits

end Rights
end Shell
end StubAssist
