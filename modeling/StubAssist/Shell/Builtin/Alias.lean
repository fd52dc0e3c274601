import StubAssist.Shell.Machine

/-!
# Aliases

Built-in commands that set, show and forget texts that stand for others.
-/

namespace StubAssist
namespace Shell
namespace Builtin

open Machine

def shownAlias (name value : Text) : Text :=
  name ++ '=' :: inFullQuotes value ++ ['\n']

def setAlias (name value : Text) (aliases : List (Text × Text)) : List (Text × Text) :=
  if (aliases.lookup name).isSome then
    aliases.map fun entry => if entry.1 == name then (name, value) else entry
  else aliases ++ [(name, value)]

/-- An alias with a value, the name of which may start with the sign between them. -/
def aliasDefinition? : Text → Option (Text × Text)
  | [] => none
  | c :: rest => (Text.splitFirst '=' rest).map fun (name, value) => (c :: name, value)

def missAlias (name : Text) : Machine Unit := do
  let speaker := ((← get).speaker).getD []
  write 2 (Octets.bytes (speaker ++ ": " ++ name ++ " not found\n"))
  setStatus 1

/-- Sets aliases, or shows them; what is shown comes after all complaints. -/
def setAliases : Action := fun arguments => do
  setStatus 0
  let mut shown : Text := []
  if arguments.isEmpty then
    for (name, value) in ((← get).aliases.mergeSort fun a b =>
        Bindings.row a.1 ≤ Bindings.row b.1) do
      shown := shown ++ shownAlias name value
  for argument in arguments do
    match aliasDefinition? argument with
    | some (name, value) =>
        modify fun state => { state with aliases := setAlias name value state.aliases }
    | none =>
        match (← get).aliases.lookup argument with
        | some value => shown := shown ++ shownAlias argument value
        | none => missAlias argument
  print shown

def unalias : Action := fun arguments => do
  match Options.read "a" arguments with
  | .error reason => fail reason
  | .ok (_ :: _, _) =>
      modify fun state => { state with aliases := [] }
      setStatus 0
  | .ok ([], names) =>
      setStatus 0
      for name in names do
        let aliases := (← get).aliases
        if (aliases.lookup name).isNone then missAlias name
        else modify fun state => { state with aliases := aliases.filter (·.1 != name) }

end Builtin
end Shell
end StubAssist
