import StubAssist.Shell.Syntax

/-!
# Variables

The variables of a shell: their values, which of them commands can see, and which
cannot be changed any more.  A variable can be marked in these ways before it has a
value.
-/

namespace StubAssist
namespace Shell

structure Bindings where
  values : List (Text × Text)
  exported : List Text
  readOnly : List Text
deriving DecidableEq, Repr

structure Binding where
  name : Text
  value : Option Text
  isExported : Bool
  isReadOnly : Bool
deriving DecidableEq, Repr

namespace Bindings

def ofList (values : List (Text × Text)) : Bindings :=
  ⟨values, [], []⟩

def get? (bindings : Bindings) (name : Text) : Option Text :=
  bindings.values.lookup name

def isReadOnly (bindings : Bindings) (name : Text) : Bool :=
  bindings.readOnly.contains name

def set (name value : Text) (bindings : Bindings) : Bindings :=
  if (bindings.get? name).isNone then
    { bindings with values := (name, value) :: bindings.values }
  else
    { bindings with
      values := bindings.values.map fun entry => if entry.1 == name then (name, value) else entry }

def set? (name value : Text) (bindings : Bindings) : Option Bindings :=
  if bindings.isReadOnly name then none else some (bindings.set name value)

def erase (name : Text) (bindings : Bindings) : Bindings where
  values := bindings.values.filter (·.1 != name)
  exported := bindings.exported.filter (· != name)
  readOnly := bindings.readOnly.filter (· != name)

def markExported (name : Text) (bindings : Bindings) : Bindings :=
  { bindings with exported := name :: bindings.exported.filter (· != name) }

def markReadOnly (name : Text) (bindings : Bindings) : Bindings :=
  { bindings with readOnly := name :: bindings.readOnly.filter (· != name) }

def row (name : Text) : Nat :=
  (name.foldl (fun n c => n + c.toNat) (16 * ((name.head?.map Char.toNat).getD 0))) % 39

/-- What other programs get to see, row by row, and in each row the oldest first. -/
def visible (bindings : Bindings) : List (Text × Text) :=
  let seen := bindings.values.reverse.filter fun (name, _) => bindings.exported.contains name
  seen.mergeSort fun (a, _) (b, _) => row a ≤ row b

def binding (bindings : Bindings) (name : Text) : Binding :=
  ⟨name, bindings.get? name, bindings.exported.contains name, bindings.isReadOnly name⟩

def restore (bindings : Bindings) (binding : Binding) : Bindings :=
  let others := bindings.erase binding.name
  let bindings :=
    match binding.value with
    | some value => others.set binding.name value
    | none => others
  let bindings := if binding.isExported then bindings.markExported binding.name else bindings
  if binding.isReadOnly then bindings.markReadOnly binding.name else bindings

def sorted (names : List Text) : List Text :=
  names.mergeSort fun a b => !decide (b < a)

end Bindings
end Shell
end StubAssist
