import StubAssist.Shell.Machine

/-!
# Variables and parameters

Built-in commands that set, mark and forget variables, and one that takes options out
of parameters.
-/

namespace StubAssist
namespace Shell
namespace Builtin

open Machine

def shown (command : Text) (bindings : Bindings) (name : Text) : Text :=
  let start := if command.isEmpty then name else command ++ ' ' :: name
  match bindings.get? name with
  | some value => start ++ '=' :: inFullQuotes value ++ ['\n']
  | none => start ++ ['\n']

def showVariables (command : Text) (names : List Text) : Machine Unit := do
  let bindings := (← get).bindings
  for name in Bindings.sorted names do print (shown command bindings name)
  setStatus 0

def markOne (mark : Text → Bindings → Bindings) (argument : Text) : Machine Unit := do
  let name := argument.takeWhile (· != '=')
  checkName name
  match Text.splitFirst '=' argument with
  | some (_, value) => assign name value
  | none => pure ()
  modify fun state => { state with bindings := mark name state.bindings }

def markAll (command : Text) (mark : Text → Bindings → Bindings) (marked : Bindings → List Text) :
    Action := fun arguments => do
  match Options.read "p" arguments with
  | .error reason => fail reason
  | .ok ([], argument :: arguments) =>
      for argument in argument :: arguments do markOne mark argument
      setStatus 0
  | .ok _ => showVariables command (marked (← get).bindings)

def exportNames : Action :=
  markAll "export" Bindings.markExported Bindings.exported

def fix : Action :=
  markAll "readonly" Bindings.markReadOnly Bindings.readOnly

/-- Makes variables the function's own; a dash stands for the modes of the shell. -/
def declareLocal : Action := fun arguments => do
  if (← get).locals.isNone then fail "not in a function"
  for argument in arguments do
    if argument == "-" then
      modify fun state => { state with locals := state.locals.map (.modes state.modes :: ·) }
    else
      match Text.splitFirst '=' argument with
      | some (name, value) => makeLocal name (some value)
      | none => makeLocal argument none
  setStatus 0

def unset : Action := fun arguments => do
  match Options.read "vf" arguments with
  | .error reason => fail reason
  | .ok (options, names) =>
      if (options.getLast?.map (·.1)) == some 'f' then
        modify fun state =>
          { state with functions := state.functions.filter fun (name, _) => !names.contains name }
      else for name in names do unsetVariable name
      setStatus 0

def getopts : Action := fun arguments => do
  match Options.read [] arguments with
  | .error reason => fail reason
  | .ok (_, allowed :: name :: others) =>
      let state ← get
      let words := if others.isEmpty then state.arguments else others
      let place := if words.length + 1 < state.place.index then .start else state.place
      let step := Options.step allowed words place
      match step.complaint with
      | some reason => write 2 (Octets.bytes (reason ++ ['\n']))
      | none => pure ()
      match step.value with
      | some (some value) => setVariable "OPTARG" value
      | some none => unsetVariable "OPTARG"
      | none => pure ()
      setVariable "OPTIND" (Text.ofNat step.place.index)
      checkName name
      setVariable name [step.letter]
      modify fun state => { state with place := step.place }
      setStatus (if step.isDone then 1 else 0)
  | .ok _ => fail "Usage: getopts optstring var [arg...]"

end Builtin
end Shell
end StubAssist
