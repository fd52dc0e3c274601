import StubAssist.Shell.Files
import StubAssist.Shell.Octets
import StubAssist.ToolRun

/-!
# Activities

What a program does step by step.  It works on files and writes without stopping; it
stops where it needs an answer: when it reads, when it lets time pass, and when it runs
another program.  Texts are octets here, as in all of the shell.
-/

namespace StubAssist
namespace Shell

inductive Stream where
  | output
  | complaints
deriving DecidableEq, Repr

structure Intake where
  text : Text
  isEndless : Bool
  isPartial : Bool
  size : Option Nat
deriving DecidableEq, Repr

def Intake.hasMore (intake : Intake) : Bool :=
  intake.isEndless || intake.isPartial

abbrev Variables := List (Text × Text)

namespace Variables

def set (environment : Variables) (name value : Text) : Variables :=
  if (environment.lookup name).isSome then
    environment.map fun entry => if entry.1 == name then (name, value) else entry
  else environment ++ [(name, value)]

def erase (environment : Variables) (name : Text) : Variables :=
  environment.filter (·.1 != name)

end Variables

structure Errand where
  name : Text
  arguments : List Text
  environment : Variables
  readsNothing : Bool
  isLast : Bool
  limit : Option (Nat × Nat)
  deafTo : List Nat

def Errand.plain (name : Text) (arguments : List Text) (environment : Variables) : Errand where
  name := name
  arguments := arguments
  environment := environment
  readsNothing := false
  isLast := false
  limit := none
  deafTo := []

inductive Ending where
  | notStarted (error : FileError)
  | ended (status : ExitStatus)
  | interrupted (status : ExitStatus)
deriving DecidableEq, Repr

structure Scene where
  files : FileTree
  written : List (Stream × Text)
  unread : Option Text
  status : Nat
  signal : Option Nat

namespace Scene

def writtenTo (scene : Scene) (stream : Stream) : Text :=
  ((scene.written.reverse.filter (·.1 == stream)).map (·.2)).flatten

def after : (sent : Nat) → List (Stream × Text) → List (Stream × Text)
  | _, [] => []
  | sent, (.output, t) :: rest => (.output, t.drop sent) :: after (sent - t.length) rest
  | sent, piece :: rest => piece :: after sent rest

def without (scene : Scene) (sent : Nat) : Scene :=
  if sent == 0 then scene
  else { scene with written := (after sent scene.written.reverse).reverse }

end Scene

structure Surroundings where
  name : Text
  environment : Variables
  /-- The files that its input comes from and its output goes to, where they are files. -/
  inputFile : Option Location
  outputFile : Option Location
  hasInput : Bool
  hasOutput : Bool

/-- How far an activity has come; one that has left early has no result. -/
inductive Course (α : Type) where
  | done (result : Option α) (scene : Scene)
  | reading (descriptor : Nat) (scene : Scene)
      (resume : Except FileError Intake → Scene → Course α)
  | pausing (millis : Option Nat) (scene : Scene) (resume : Scene → Course α)
  | calling (errand : Errand) (scene : Scene) (resume : Ending → Scene → Course α)

def Course.andThen {α β : Type} : Course α → (Option α → Scene → Course β) → Course β
  | .done result scene, next => next result scene
  | .reading descriptor scene resume, next =>
      .reading descriptor scene fun intake scene => (resume intake scene).andThen next
  | .pausing millis scene resume, next =>
      .pausing millis scene fun scene => (resume scene).andThen next
  | .calling errand scene resume, next =>
      .calling errand scene fun ending scene => (resume ending scene).andThen next

def Activity (α : Type) : Type :=
  Surroundings → Scene → Course α

abbrev Program := List Text → Activity Unit

namespace Activity

instance : Monad Activity where
  pure a := fun _ scene => .done (some a) scene
  bind activity next := fun surroundings scene =>
    (activity surroundings scene).andThen fun result scene =>
      match result with
      | some a => next a surroundings scene
      | none => .done none scene

instance : MonadStateOf Scene Activity where
  get := fun _ scene => .done (some scene) scene
  set scene := fun _ _ => .done (some ()) scene
  modifyGet f := fun _ scene =>
    let (a, scene) := f scene
    .done (some a) scene

def surroundings : Activity Surroundings := fun surroundings scene =>
  .done (some surroundings) scene

def leave {α : Type} : Activity α := fun _ scene =>
  .done none scene

def exit {α : Type} (status : Nat) : Activity α := do
  modify fun scene => { scene with status := status }
  leave

def die {α : Type} (signal : Nat) : Activity α := do
  modify fun scene => { scene with signal := some signal }
  leave

def setStatus (status : Nat) : Activity Unit :=
  modify fun scene => { scene with status := status }

/-!
# Writing
-/

def writeTo (stream : Stream) (t : Text) : Activity Unit :=
  modify fun scene => { scene with written := (stream, t) :: scene.written }

def print (t : Text) : Activity Unit :=
  writeTo .output t

def printLine (t : Text) : Activity Unit :=
  print (t ++ ['\n'])

def remark (t : Text) : Activity Unit := do
  writeTo .complaints ((← surroundings).name ++ ": " ++ t ++ ['\n'])

def complain (t : Text) : Activity Unit := do
  remark t
  setStatus 1

def fail {α : Type} (status : Nat) (t : Text) : Activity α := do
  remark t
  exit status

def hint : Activity Unit := do
  writeTo .complaints ("Try '" ++ (← surroundings).name ++ " --help' for more information.\n")

def misuse {α : Type} (status : Nat) (t : Text) : Activity α := do
  remark t
  hint
  exit status

/-!
# Reading
-/

def intake (descriptor : Nat) : Activity (Except FileError Intake) := fun _ scene =>
  .reading descriptor scene fun intake scene => .done (some intake) scene

def leaveUnread (rest : Text) : Activity Unit :=
  modify fun scene => { scene with unread := some rest }

/-!
# Files
-/

def files : Activity FileTree := do
  return (← get).files

def setFiles (files : FileTree) : Activity Unit :=
  modify fun scene => { scene with files := files }

def descriptorAt? (path : Text) : Option Nat :=
  if path == "/dev/stdin" then some 0
  else if path == "/dev/stdout" then some 1
  else if path == "/dev/stderr" then some 2
  else
    let directories : List Text := ["/dev/fd/", "/proc/self/fd/"]
    match directories.findSome? fun directory => Text.afterPrefix? directory path with
    | some digits => if digits.isEmpty then none else Text.digitsFrom? 0 digits
    | none => none

def intakeAt (path : Text) : Activity (Except FileError Intake) := do
  match descriptorAt? path with
  | some descriptor => intake descriptor
  | none =>
      match (← files).lookup path with
      | .error error => return .error error
      | .ok (_, node) =>
          match FileTree.bytesOf node with
          | .error error => return .error error
          | .ok bytes =>
              let isEndless := match node with
                | .device .null => false
                | .device _ => true
                | _ => false
              let size := match node with
                | .file _ _ => some bytes.length
                | _ => none
              return .ok ⟨Octets.ofBytes bytes, isEndless, false, size⟩

def operandIntake (operand : Text) : Activity (Except FileError Intake) :=
  if operand == "-" then intake 0 else intakeAt operand

def contents (operand : Text) : Activity (Except FileError Text) := do
  match ← operandIntake operand with
  | .error error => return .error error
  | .ok intake =>
      if intake.hasMore then
        fun _ scene => .pausing none scene fun scene => .done (some (.ok intake.text)) scene
      else return .ok intake.text

def sample (t : Text) : Text :=
  (List.replicate (Nat.pow 2 16 / max 1 t.length + 1) t).flatten

/-- The text that an operand names as far as it is known, and whether there is more. -/
def flow (operand : Text) : Activity (Except FileError (Text × Bool)) := do
  match ← operandIntake operand with
  | .error error => return .error error
  | .ok intake =>
      return .ok (if intake.isEndless then sample intake.text else intake.text, intake.hasMore)

def isOutput (operand : Text) : Activity Bool := do
  let surroundings ← surroundings
  let files ← files
  let file := if operand == "-" then surroundings.inputFile
    else (files.resolve operand).toOption
  return file.isSome && file == surroundings.outputFile

/-!
# Time and other programs
-/

def pause (millis : Nat) : Activity Unit := fun _ scene =>
  .pausing (some millis) scene fun scene => .done (some ()) scene

/-- Cannot go on with what is known, or goes on for ever with what it has been doing. -/
def continueForever {α : Type} : Activity α := fun _ scene =>
  .pausing none scene fun scene => .done none scene

def call (errand : Errand) : Activity Ending := fun _ scene =>
  .calling errand scene fun ending scene => .done (some ending) scene

/-- Hands over to another program, unless that cannot be started. -/
def become (errand : Errand) : Activity FileError := do
  match ← call { errand with isLast := true } with
  | .notStarted error => return error
  | .ended (.code status) => exit status
  | .ended (.signal signal) => die signal
  | .interrupted _ => leave

def now : Activity Nat := do
  return (← files).clock

end Activity
end Shell
end StubAssist
