import StubAssist.CommandLine.Run
import StubAssist.Shell.Tool

/-!
# The program

Runs a command line on the files that it names: reads them, runs the command in
memory, writes what has changed, and prints.
-/

namespace StubAssist
namespace CommandLine

def namedPaths (commandLine : CommandLine) : List Text :=
  commandLine.settingsPath ::
    match commandLine.command with
    | .actions file _ => [file]
    | .implement file _ _ _ _ => [file]
    | _ => []

def loadFiles (paths : List Text) : IO FileTree := do
  let mut files : List (Text × Utf8.Bytes) := []
  for path in paths do
    try
      let bytes ← IO.FS.readBinFile (String.ofList path)
      files := files ++ [(path, bytes.toList)]
    catch _ => pure ()
  return FileTree.populated files

def storeFile (path : Text) (bytes : Utf8.Bytes) : IO Unit := do
  match FilePath.parent? path with
  | some (c :: rest) => IO.FS.createDirAll (String.ofList (c :: rest))
  | _ => pure ()
  IO.FS.writeBinFile (String.ofList path) (ByteArray.mk bytes.toArray)

def storeChanges (paths : List Text) (before after : FileTree) : IO Unit := do
  let named := paths.filterMap fun path =>
    match after.read path with
    | .ok bytes => if (before.read path).toOption == some bytes then none else some (path, bytes)
    | .error _ => none
  let others := (after.changesSince before).filter fun (path, _) => !paths.contains path
  for (path, bytes) in named ++ others do storeFile path bytes

def printOutcome (outcome : Outcome) : IO UInt32 := do
  IO.print (String.ofList outcome.output)
  IO.eprint (String.ofList outcome.complaints)
  return UInt32.ofNat outcome.exitCode

end CommandLine
end StubAssist

open StubAssist CommandLine in
def main (arguments : List String) : IO UInt32 := do
  let arguments : List Text := arguments.map String.toList
  let paths := match parse arguments with
    | .ok commandLine => namedPaths commandLine
    | .error _ => []
  let files ← loadFiles paths
  let outcome := runArguments Shell.tools files arguments
  storeChanges paths files outcome.files
  printOutcome outcome
