import StubAssist.Shell.Activity
import StubAssist.Shell.Bindings
import StubAssist.Shell.Mode
import StubAssist.Shell.Options
import StubAssist.Shell.Signal

/-!
# The state of a shell

What a running script can see and change.  Files, streams, time and the table of
processes are the same for all processes; the rest is each one's own.
-/

namespace StubAssist
namespace Shell

open Utf8 (Bytes)

inductive Channel where
  | buffer (index : Nat)
  | supply (index : Nat)
  | file (index : Nat)
deriving DecidableEq, Repr

structure Supply where
  rest : Bytes
  isEndless : Bool
  source : Option Nat

/-- What was written to a stream and has not been read from it. -/
structure Buffer where
  count : Nat
  bytes : Bytes
  isUsed : Bool
  /-- Whether it is read while it is written to, and holds only so much for that. -/
  isPipe : Bool

namespace Buffer

def empty : Buffer := ⟨0, [], false, false⟩

def pipe : Buffer := { empty with isPipe := true }

def add (buffer : Buffer) (bytes : Bytes) : Buffer :=
  { buffer with
    count := buffer.count + bytes.length
    bytes := bytes.reverseAux buffer.bytes
    isUsed := buffer.isUsed || !bytes.isEmpty }

def emptied (buffer : Buffer) : Buffer :=
  { buffer with count := 0, bytes := [] }

def capacity : Nat := 65536

def isFull (buffer : Buffer) : Bool :=
  buffer.isPipe && capacity ≤ buffer.count

end Buffer

/-- A file that is open, with the place where reading and writing go on. -/
structure OpenFile where
  location : Location
  offset : Nat
  canRead : Bool
  canWrite : Bool
  appends : Bool
deriving DecidableEq, Repr

inductive Halt where
  | left
  /-- There was a mistake that ends the script, or the command that is built in. -/
  | failed
  | returned
  | broken (levels : Nat)
  | continued (levels : Nat)
  | killed (signal : Nat)
  | expired
deriving DecidableEq, Repr

structure World where
  files : FileTree
  clock : Nat
  buffers : List Buffer
  /-- Buffers that nobody can write to any more, as far as their readers know. -/
  closed : List Nat
  /-- Buffers that nobody reads any more, and whether there ever was anything in them. -/
  broken : List (Nat × Bool)
  supplies : List (Nat × Supply)
  openFiles : List (Nat × OpenFile)
  openCount : Nat
  lastNumber : Nat
  living : List Nat
  ended : List (Nat × ExitStatus)
  /-- Signals that were sent and have had no effect yet, with the process they are for. -/
  signals : List (Nat × Nat)

inductive Saved where
  | variable (binding : Binding)
  | modes (modes : List Mode)
deriving DecidableEq, Repr

/-- A command in the background, or several that make up one. -/
structure Job where
  number : Nat
  process : Nat
  size : Nat
  /-- Whether it has been waited for, so that another one can have its number. -/
  isOver : Bool
deriving DecidableEq, Repr

structure State extends World where
  name : Text
  arguments : List Text
  directory : Text
  place : Options.Place
  bindings : Bindings
  modes : List Mode
  functions : List (Text × Command)
  aliases : List (Text × Text)
  limits : List (Char × Text)
  located : List Text
  locals : Option (List Saved)
  depth : Nat
  /-- How many loops are being run in the same function, one inside the other. -/
  loops : Nat
  nesting : Nat
  traps : List (Nat × Text)
  deafTo : List Nat
  /-- Whether the process has nothing to do after the current command, and can become it. -/
  endsHere : Bool
  status : Nat
  /-- The status of what was run last to put its output into the current command. -/
  captured : Nat
  line : Nat
  lineRead : Nat
  /-- The command that speaks when something is complained of, if it is not the shell. -/
  speaker : Option Text
  process : Nat
  shell : Nat
  jobs : List Job
  missed : List Nat
  lastJob : Option Nat
  descriptors : List (Nat × Channel)
  /-- Buffers that stay open here though no descriptor stands for them. -/
  kept : List Nat
  lostOutput : Option FileError
  isTested : Bool

namespace World

def headStart : Nat := 10

def goOnTo (world : World) (clock : Nat) : World :=
  { world with
    clock := clock
    files := { world.files with clock := FileTree.beginning + headStart + clock } }

def remove (world : World) (process : Nat) : World :=
  { world with
    living := world.living.filter (· != process)
    signals := world.signals.filter (·.1 != process) }

def finish (world : World) (process : Nat) (status : ExitStatus) : World :=
  { world.remove process with ended := (process, status) :: world.ended }

def written (world : World) (index : Nat) : Bytes :=
  (world.buffers[index]?.getD .empty).bytes.reverse

def isFull (world : World) (index : Nat) : Bool :=
  (world.buffers[index]?.getD .empty).isFull

def pending (world : World) (index : Nat) : Nat :=
  (world.buffers[index]?.getD .empty).count

/-- Gives up the contents of a buffer, and the buffer itself where nothing comes after it. -/
def release (world : World) (index : Nat) : World :=
  { world with
    buffers :=
      if world.buffers.length == index + 1 then world.buffers.take index
      else world.buffers.set index .empty
    closed := world.closed.filter (· != index) }

end World

namespace State

def firstProcess : Nat := 1000

/-- Where programs are looked for unless a script says otherwise. -/
def searchPath : Text :=
  "/usr/local/sbin:/usr/local/bin:/usr/sbin:/usr/bin:/sbin:/bin"

def surroundings : Variables :=
  [("HOME", "/root"), ("PATH", searchPath)]

/-- The path of the current directory: the one that it was reached by, if that still leads there. -/
def initialDirectory (files : FileTree) (seen : Variables) : Text :=
  let here := FileTree.pathOf files.workingDirectory
  match seen.lookup "PWD".toList with
  | some path =>
      if path.head? != some '/' then here
      else
        match files.resolve path with
        | .ok location => if location == files.workingDirectory then path else here
        | .error _ => here
  | none => here

def initialBindings (files : FileTree) (seen : Variables) : Bindings :=
  let defaults : Bindings :=
    .ofList [("PATH", searchPath), ("PS1", "# "), ("PS2", "> "), ("PS4", "+ ")]
  let fixed : Variables := [("IFS", " \t\n"), ("OPTIND", "1"), ("PPID", "1")]
  let set := fun (bindings : Bindings) (name, value) => bindings.set name value
  let see := fun (bindings : Bindings) (name, value) => (bindings.set name value).markExported name
  let inherited := (seen.filter fun (name, _) => isName name).foldl see defaults
  see (fixed.foldl set inherited) ("PWD", initialDirectory files seen)

def start (files : FileTree) (name : Text) (arguments : List Text) (seen : Variables) :
    State where
  files := { files with clock := FileTree.beginning + World.headStart }
  clock := 0
  buffers := [.empty, .empty]
  closed := []
  broken := []
  supplies := [(0, ⟨[], false, none⟩)]
  openFiles := []
  openCount := 1
  lastNumber := firstProcess
  living := [firstProcess]
  ended := []
  signals := []
  name := name
  arguments := arguments
  directory := initialDirectory files seen
  place := .start
  bindings := initialBindings files seen
  modes := []
  functions := []
  aliases := []
  limits := []
  located := []
  locals := none
  depth := 0
  loops := 0
  nesting := 0
  traps := []
  deafTo := []
  endsHere := false
  status := 0
  captured := 0
  line := 1
  lineRead := 1
  speaker := none
  process := firstProcess
  shell := firstProcess
  jobs := []
  missed := []
  lastJob := none
  descriptors := [(0, .supply 0), (1, .buffer 0), (2, .buffer 1)]
  kept := []
  lostOutput := none
  isTested := false

def isIn (state : State) (mode : Mode) : Bool :=
  state.modes.contains mode

/-- The same process in a changed world; its working directory and mask are its own. -/
def inWorld (state : State) (world : World) : State :=
  { state with
    toWorld :=
      { world with
        files :=
          { world.files with
            workingDirectory := state.files.workingDirectory
            mask := state.files.mask } } }

def openBuffers (state : State) : List Nat :=
  state.descriptors.filterMap fun (_, channel) =>
    match channel with
    | .buffer index => some index
    | _ => none

def holds (state : State) (buffer : Nat) : Bool :=
  state.kept.contains buffer || state.openBuffers.contains buffer

/--
Takes the descriptors of an earlier state.  What has been opened since is forgotten, unless
another process could have it open too.
-/
def restoreDescriptors (state before : State) : State :=
  if state.living.length != 1 then { state with descriptors := before.descriptors }
  else
    let isOpen := fun (index : Nat) (channel : Channel) =>
      index < before.openCount || before.descriptors.any (·.2 == channel)
    { state with
      descriptors := before.descriptors
      supplies := state.supplies.filter fun (index, _) => isOpen index (.supply index)
      openFiles := state.openFiles.filter fun (index, _) => isOpen index (.file index) }

/-- The lowest number for a job that is free or can be used again, and the jobs without that. -/
def freeNumber (state : State) : Nat × List Job :=
  let numbers := (List.range (state.jobs.length + 1)).map (· + 1)
  let isFree := fun (n : Nat) => state.jobs.all fun job => job.number != n || job.isOver
  let number := (numbers.find? isFree).getD 1
  (number, state.jobs.filter (·.number != number))

/-- A new process, which gets a copy of everything but the jobs and most traps. -/
def fork (state : State) : State :=
  let number := state.lastNumber + 1
  { state with
    lastNumber := number
    living := number :: state.living
    process := number
    jobs := []
    missed := []
    endsHere := false
    traps := state.traps.filter (·.2.isEmpty) }

/-- A process that its parent waits for, so that what the parent has open stays open. -/
def child (state : State) : State :=
  { state.fork with kept := state.kept ++ state.openBuffers, lineRead := 1 }

def background (state : State) : State :=
  let fork := state.fork
  { fork with
    kept := []
    descriptors := state.descriptors.filter (·.1 != 0)
    deafTo := [2, 3] ++ fork.deafTo
    isTested := false }

def effect (state : State) (signal : Nat) : Signal.Effect :=
  Signal.effect state.deafTo state.traps signal

def signal? (state : State) (has : Signal.Effect → Bool) : Option Nat :=
  (state.signals.find? fun (process, n) =>
    process == state.process && has (state.effect n)).map (·.2)

def fatalSignal? (state : State) : Option Nat :=
  state.signal? (· == .ends)

def trappedSignal? (state : State) : Option Nat :=
  state.signal? fun
    | .runs _ => true
    | _ => false

end State
end Shell
end StubAssist
