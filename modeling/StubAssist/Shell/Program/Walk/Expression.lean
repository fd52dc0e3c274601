import StubAssist.Shell.Files
import StubAssist.Shell.Regex
import StubAssist.Shell.Pattern

/-!
# What to do on a walk

Expressions that are evaluated for each file on a walk through directories: questions
about the file, and actions.
-/

namespace StubAssist
namespace Shell
namespace Program
namespace Walk

inductive Relation where
  | less
  | equal
  | more
deriving DecidableEq, Repr

structure Amount where
  relation : Relation
  count : Nat
deriving DecidableEq, Repr

def Amount.admits (amount : Amount) (n : Nat) : Bool :=
  match amount.relation with
  | .less => n < amount.count
  | .equal => n == amount.count
  | .more => amount.count < n

inductive Share where
  | exactly
  | all
  | any
deriving DecidableEq, Repr

inductive Question where
  | always (answer : Bool)
  | name (pattern : Pattern) (foldsCase : Bool)
  | path (pattern : Pattern) (foldsCase : Bool)
  | target (pattern : Pattern) (foldsCase : Bool)
  | matching (regex : Regex) (ignoresCase : Bool)
  | kind (letters : Text) (seesThrough : Bool)
  | empty
  | size (amount : Amount) (unit : Nat)
  | age (amount : Amount) (unit : Nat)
  | newerThan (time : Nat)
  | rights (mode : Nat) (share : Share)
  /-- Whether the only user, who can read and write all files, may do something. -/
  | permits (bits : Nat)
  | links (amount : Amount)
  | isAt (location : Location)
deriving Repr

inductive Action where
  | print (ending : Char) (file : Option Text)
  | format (template : Text) (file : Option Text)
  | list
  | delete
  | prune
  | quit
  | run (words : List Text) (isInside : Bool)
  | ask (words : List Text)
  /-- Runs a program for many files together; each such action has a number. -/
  | gather (index : Nat) (words : List Text) (isInside : Bool)
deriving DecidableEq, Repr

def Action.isComplete : Action → Bool
  | .prune | .quit => false
  | _ => true

inductive Expression where
  | question (question : Question)
  | action (action : Action)
  | negated (body : Expression)
  | both (first second : Expression)
  | either (first second : Expression)
  | list (first second : Expression)
deriving Repr

structure Route where
  followsOperands : Bool
  followsAll : Bool
  least : Nat
  most : Option Nat
  goesUp : Bool
deriving DecidableEq, Repr

structure Plan where
  paths : List Text
  route : Route
  expression : Expression
  gathered : List (Nat × List Text × Bool)
  targets : List Text

end Walk
end Program
end Shell
end StubAssist
