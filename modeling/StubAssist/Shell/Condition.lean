import StubAssist.Shell.Files
import StubAssist.Shell.Arithmetic

/-!
# Conditions

The conditions of `test`: on texts, numbers and files, joined by "and", which
binds more strongly, and "or".  A word counts as an operator or as an operand by its
place among the others.
-/

namespace StubAssist
namespace Shell
namespace Condition

inductive Flaw where
  | illegalNumber (t : Text)
  | unexpectedOperator (t : Text)
  | missingArgument (operator : Text)
  | unclosedParenthesis
deriving DecidableEq, Repr

def Flaw.message : Flaw → Text
  | illegalNumber t => "Illegal number: " ++ t
  | unexpectedOperator [] => "unexpected operator"
  | unexpectedOperator t => t ++ ": unexpected operator"
  | missingArgument operator => operator ++ ": argument expected"
  | unclosedParenthesis => "closing paren expected"

/-!
# Operators
-/

inductive Role where
  | nothing
  | operand
  | unary
  | binary
  | negation
  | conjunction
  | disjunction
  | opening
  | closing
deriving DecidableEq, Repr

def unaryOperators : List Text :=
  ["-r", "-w", "-x", "-e", "-f", "-d", "-c", "-b", "-p", "-u", "-g", "-k", "-s", "-t", "-z",
    "-n", "-h", "-O", "-G", "-S", "-L"]

def binaryOperators : List Text :=
  ["=", "!=", "<", ">", "-eq", "-ne", "-ge", "-gt", "-le", "-lt", "-nt", "-ot", "-ef"]

def operatorRole (t : Text) : Role :=
  if unaryOperators.contains t then .unary
  else if binaryOperators.contains t then .binary
  else if t == "!" then .negation
  else if t == "-a" then .conjunction
  else if t == "-o" then .disjunction
  else if t == "(" then .opening
  else if t == ")" then .closing
  else .operand

def role : List Text → Role
  | [] => .nothing
  | t :: rest =>
      match operatorRole t, rest with
      | .unary, [] => .operand
      | .unary, next :: _ :: _ => if operatorRole next == .binary then .operand else .unary
      | .opening, [] => .operand
      | role, _ => role

def isPlainFile : Node → Bool
  | .file _ _ => true
  | _ => false

def isDevice : Node → Bool
  | .device _ => true
  | _ => false

def hasContent : Node → Bool
  | .file bytes _ => !bytes.isEmpty
  | .directory _ _ => true
  | _ => false

def isExecutable : Node → Bool
  | .directory _ _ => true
  | node => node.isExecutable

def fileIs (files : FileTree) (path : Text) (p : Node → Bool) : Bool :=
  match files.lookup path with
  | .ok (_, node) => p node
  | .error _ => false

def number (t : Text) : Except Flaw Int :=
  match Arithmetic.readDecimal? t with
  | some (n, rest) =>
      if Arithmetic.isInRange n && rest.all Arithmetic.isSpace then .ok n
      else .error (.illegalNumber t)
  | none => .error (.illegalNumber t)

def isLink (files : FileTree) (path : Text) : Bool :=
  match files.lookupLink path with
  | .ok (_, .link _ _) => true
  | _ => false

def hasRights (files : FileTree) (path : Text) (bits : Nat) : Bool :=
  fileIs files path fun node => node.attributes.mode &&& bits != 0

def unary (files : FileTree) (operator operand : Text) : Except Flaw Bool :=
  match operator with
  | ['-', 'n'] => .ok (!operand.isEmpty)
  | ['-', 'z'] => .ok operand.isEmpty
  | ['-', 'd'] => .ok (files.isDirectory operand)
  | ['-', 'f'] => .ok (fileIs files operand isPlainFile)
  | ['-', 'c'] => .ok (fileIs files operand isDevice)
  | ['-', 's'] => .ok (fileIs files operand hasContent)
  | ['-', 'x'] => .ok (fileIs files operand isExecutable)
  | ['-', 'h'] | ['-', 'L'] => .ok (isLink files operand)
  | ['-', 'u'] => .ok (hasRights files operand 0o4000)
  | ['-', 'g'] => .ok (hasRights files operand 0o2000)
  | ['-', 'k'] => .ok (hasRights files operand 0o1000)
  | ['-', 't'] => do return (fun _ => false) (← number operand)
  | _ =>
      .ok ((["-e", "-r", "-w", "-O", "-G"] : List Text).contains operator && files.exists? operand)

def isSameFile (files : FileTree) (a b : Text) : Bool :=
  match files.lookup a, files.lookup b with
  | .ok (here, _), .ok (there, _) => here == there
  | _, _ => false

def isNewer (files : FileTree) (a b : Text) : Bool :=
  match files.lookup a, files.lookup b with
  | .ok (_, first), .ok (_, second) => second.attributes.time < first.attributes.time
  | _, _ => false

def binary (files : FileTree) (operator a b : Text) : Except Flaw Bool :=
  match operator with
  | ['='] => .ok (a == b)
  | ['!', '='] => .ok (a != b)
  | ['<'] => .ok (a < b)
  | ['>'] => .ok (b < a)
  | ['-', 'e', 'q'] => do return (← number a) == (← number b)
  | ['-', 'n', 'e'] => do return (← number a) != (← number b)
  | ['-', 'l', 't'] => do return decide ((← number a) < (← number b))
  | ['-', 'l', 'e'] => do return decide ((← number a) ≤ (← number b))
  | ['-', 'g', 't'] => do return decide ((← number a) > (← number b))
  | ['-', 'g', 'e'] => do return decide ((← number a) ≥ (← number b))
  | ['-', 'e', 'f'] => .ok (isSameFile files a b)
  | ['-', 'n', 't'] => .ok (isNewer files a b)
  | ['-', 'o', 't'] => .ok (isNewer files b a)
  | _ => .ok false

/-!
# Evaluation

Each function answers with the words from the last one on that it has used.
-/

mutual

def disjunction (files : FileTree) : (fuel : Nat) → Role → List Text →
    Except Flaw (Bool × List Text)
  | 0, _, words => .ok (false, words)
  | fuel + 1, first, words => do
      let (holds, words) ← conjunction files fuel first words
      if role (words.drop 1) == .disjunction then
        let (more, words) ← disjunction files fuel (role (words.drop 2)) (words.drop 2)
        return (holds || more, words)
      else return (holds, words)

def conjunction (files : FileTree) : (fuel : Nat) → Role → List Text →
    Except Flaw (Bool × List Text)
  | 0, _, words => .ok (false, words)
  | fuel + 1, first, words => do
      let (holds, words) ← negation files fuel first words
      if role (words.drop 1) == .conjunction then
        let (more, words) ← conjunction files fuel (role (words.drop 2)) (words.drop 2)
        return (holds && more, words)
      else return (holds, words)

def negation (files : FileTree) : (fuel : Nat) → Role → List Text →
    Except Flaw (Bool × List Text)
  | 0, _, words => .ok (false, words)
  | fuel + 1, first, words => do
      if first == .negation then
        let rest := words.drop 1
        let (holds, words) ← negation files fuel (role rest) (if rest.isEmpty then words else rest)
        return (!holds, words)
      else primary files fuel first words

def primary (files : FileTree) : (fuel : Nat) → Role → List Text →
    Except Flaw (Bool × List Text)
  | 0, _, words => .ok (false, words)
  | fuel + 1, first, words =>
      match first, words with
      | .nothing, _ => .ok (false, words)
      | .opening, _ :: rest =>
          if role rest == .closing then .ok (false, rest)
          else do
            let (holds, words) ← disjunction files fuel (role rest) rest
            if role (words.drop 1) == .closing then return (holds, words.drop 1)
            else throw .unclosedParenthesis
      | .unary, [operator] => .error (.missingArgument operator)
      | .unary, operator :: operand :: rest => do
          return (← unary files operator operand, operand :: rest)
      | _, a :: rest =>
          if role rest == .binary then
            match rest with
            | operator :: b :: rest => do return (← binary files operator a b, b :: rest)
            | operator :: _ => .error (.missingArgument operator)
            | [] => .ok (!a.isEmpty, words)
          else .ok (!a.isEmpty, words)
      | _, [] => .ok (false, words)

end

/-- The whole of some words as a condition that begins with a word of the given role. -/
def whole (files : FileTree) (first : Role) (words : List Text) : Except Flaw Bool := do
  match ← disjunction files (4 * words.length + 8) first words with
  | (_, t :: _ :: _) => throw (.unexpectedOperator t)
  | (holds, _) => return holds

/-- Three or four words are looked at as a whole first, to find out what is an operand. -/
def evaluate (files : FileTree) : List Text → Except Flaw Bool
  | [] => .ok false
  | [a, b, c] =>
      if operatorRole b == .binary then whole files .operand [a, b, c]
      else if a == "(" && c == ")" then whole files (role [b]) [b]
      else if a == "!" then do return !(← whole files (role [b, c]) [b, c])
      else whole files (role [a, b, c]) [a, b, c]
  | [a, b, c, d] =>
      if a == "(" && d == ")" then whole files (role [b, c]) [b, c]
      else if a == "!" then do return !(← evaluate files [b, c, d])
      else whole files (role [a, b, c, d]) [a, b, c, d]
  | words => whole files (role words) words

end Condition
end Shell
end StubAssist
