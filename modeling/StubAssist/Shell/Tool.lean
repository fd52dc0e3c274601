import StubAssist.Shell.Schedule

/-!
# Tools on a file tree

Runs tools without leaving memory: the shell itself and the programs that scripts
use, on the files of a tree.

All of the shell stands behind the parameter through which the model runs a tool, apart
from the model and from its theorems, which hold of every way to run tools.
-/

namespace StubAssist
namespace Shell
namespace Tool

def patience : Nat := 200000

def path (files : FileTree) (program : Text) : Except FileError Text :=
  if program.isEmpty then .error .notFound
  else if List.contains program '/' then .ok program
  else Lookup.search files program (Text.splitBy (· == ':') State.searchPath)

def executable (files : FileTree) (program : Text) : Except FileError Lookup.Executable := do
  if FileTree.nameLimit < Text.byteSize program && !List.contains program '/' then
    throw .nameTooLong
  Lookup.executable files Lookup.interpreterLimit (← path files program)

def isShell (files : FileTree) (program : Text) : Bool :=
  match executable files program with
  | .ok (.program name) => Lookup.shells.contains name
  | .ok _ => true
  | .error _ => false

/-- How many bytes one argument may have, and all of them together, each with a final zero. -/
def argumentLimits : Nat × Nat :=
  (Nat.pow 2 17, Nat.pow 2 21)

def exceedsLimits (words : List Text) : Bool :=
  let sizes := words.map fun word => Text.byteSize word + 1
  sizes.any (argumentLimits.1 < ·) || argumentLimits.2 < Text.total sizes

def refusal? (files : FileTree) (program : Text) (arguments : List Text) : Option FileError :=
  match executable files program with
  | .error error => some error
  | .ok _ => if exceedsLimits (program :: arguments) then some .argumentsTooLong else none

def command (program : Text) (arguments : List Text) : Machine Unit := do
  let found := (path (← get).files program).toOption.getD program
  runAt patience false State.surroundings found program arguments

def run (files : FileTree) (invocation : Invocation) : ToolOutcome × FileTree :=
  let words := invocation.program :: invocation.directory :: invocation.arguments
  if words.any (List.contains · '\x00') then
    (.notStarted "nul byte found in provided data", files)
  else
    let leave := fun (after : FileTree) =>
      { after with workingDirectory := files.workingDirectory }
    match files.enter invocation.directory with
    | .error error => (.notStarted error.message, files)
    | .ok inside =>
        match refusal? inside invocation.program invocation.arguments with
        | some error => (.notStarted error.message, files)
        | none =>
            if invocation.timeoutMillis = 0 then (.timedOut, files)
            else
              let program := Octets.ofText invocation.program
              let machine := command program (invocation.arguments.map Octets.ofText)
              let files := inside.renamed Octets.ofText
              let start := State.start files program [] State.surroundings
              let (exit, world) := System.runAll patience invocation.timeoutMillis
                (!isShell inside invocation.program) machine
                { start with endsHere := true }
              let outcome :=
                match exit with
                | some status => .finished status (world.written 0) (world.written 1)
                | none => .timedOut
              (outcome, leave (world.files.renamed Octets.toText))

end Tool

def tools : ToolRunner FileTree where
  run := Tool.run

end Shell
end StubAssist
