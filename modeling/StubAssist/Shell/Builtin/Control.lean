import StubAssist.Shell.Arithmetic
import StubAssist.Shell.Machine

/-!
# Leaving and skipping

Built-in commands that decide where the script goes on.
-/

namespace StubAssist
namespace Shell
namespace Builtin

open Machine

def number (t : Text) : Machine Nat :=
  match Arithmetic.readDecimal? t with
  | some (n, rest) =>
      if 0 ≤ n && n < Int.pow 2 31 && rest.all Arithmetic.isSpace then return n.toNat
      else fail ("Illegal number: " ++ t)
  | none => fail ("Illegal number: " ++ t)

def numberOr (default : Nat) : List Text → Machine Nat
  | [] => return default
  | t :: _ => number t

def exit : Action := fun arguments => do
  setStatus (← numberOr (← get).status arguments)
  throw .left

def leaveFunction : Action := fun arguments => do
  setStatus (← numberOr (← get).status arguments)
  throw .returned

def levels (arguments : List Text) : Machine Nat := do
  let levels ← numberOr 1 arguments
  if levels == 0 then fail ("Illegal number: " ++ arguments.headD [])
  setStatus 0
  return min levels (← get).loops

def leaveLoop : Action := fun arguments => do
  let levels ← levels arguments
  if levels != 0 then throw (.broken levels)

def nextRound : Action := fun arguments => do
  let levels ← levels arguments
  if levels != 0 then throw (.continued levels)

def shift : Action := fun arguments => do
  let count ← numberOr 1 arguments
  let state ← get
  if state.arguments.length < count then fail "can't shift that many"
  set { state with arguments := state.arguments.drop count, place := .start }
  setStatus 0

end Builtin
end Shell
end StubAssist
