import StubAssist.Shell.Pattern
import StubAssist.Shell.Reader
import StubAssist.Shell.State

/-!
# Running processes

A process runs until it ends or has to wait.  While it waits, others may change the
world, so the rest of its run is a function of the world that it finds then.
-/

namespace StubAssist
namespace Shell

open Utf8 (Bytes)

inductive Event where
  | time (clock : Nat)
  | ended (processes : List Nat)
  | closed (buffer : Nat)
  /-- There is much in a buffer, or something and nobody else goes on, or it is closed. -/
  | grown (buffer wanted : Nat)
  /-- The same, but nobody else needs to have written anything. -/
  | lull (buffer wanted : Nat)
  | drained (buffer : Nat)
  | never
  | before (clock : Nat) (event : Event)
deriving DecidableEq, Repr

inductive Progress (α : Type) where
  | done (result : Except Halt α) (state : State)
  | waiting (event : Event) (state : State) (resume : World → Progress α)
  | launching (fuel : Nat) (command : Command) (job state : State)
      (resume : World → Progress α)

def Progress.andThen {α β : Type} :
    Progress α → (Except Halt α → State → Progress β) → Progress β
  | .done result state, next => next result state
  | .waiting event state resume, next =>
      .waiting event state fun world => (resume world).andThen next
  | .launching fuel command job state resume, next =>
      .launching fuel command job state fun world => (resume world).andThen next

def Machine (α : Type) : Type :=
  State → Progress α

abbrev Action := List Text → Machine Unit

namespace Machine

instance : Monad Machine where
  pure a := fun state => .done (.ok a) state
  bind action next := fun state =>
    (action state).andThen fun result state =>
      match result with
      | .ok a => next a state
      | .error halt => .done (.error halt) state

instance : MonadStateOf State Machine where
  get := fun state => .done (.ok state) state
  set state := fun _ => .done (.ok ()) state
  modifyGet f := fun state =>
    let (a, state) := f state
    .done (.ok a) state

def attempt {α : Type} (action : Machine α) : Machine (Except Halt α) := fun state =>
  (action state).andThen fun result state => .done (.ok result) state

instance : MonadExceptOf Halt Machine where
  throw halt := fun state => .done (.error halt) state
  tryCatch action handler := do
    match ← attempt action with
    | .ok a => return a
    | .error halt => handler halt

/-!
# Streams
-/

def overwrite (old : Bytes) (offset : Nat) (bytes : Bytes) : Bytes :=
  let missing := List.replicate (offset - old.length) (0 : UInt8)
  old.take offset ++ missing ++ bytes ++ old.drop (offset + bytes.length)

def writeAt (state : State) (index : Nat) (file : OpenFile) (bytes : Bytes) : State :=
  match state.files.node? file.location with
  | some (.file old attributes) =>
      let offset := if file.appends then old.length else file.offset
      let new := if offset == old.length then old ++ bytes else overwrite old offset bytes
      let attributes := { attributes with time := state.files.clock }
      let moved := { file with offset := offset + bytes.length }
      { state with
        files := state.files.put file.location (.file new attributes)
        openFiles := state.openFiles.map fun (other, file) =>
          (other, if other == index then moved else file) }
  | _ => state

def writeTo (channel : Option Channel) (bytes : Bytes) : Machine Unit :=
  modify fun state =>
    match channel with
    | some (.buffer index) =>
        { state with buffers := state.buffers.modify index (·.add bytes) }
    | some (.file index) =>
        match state.openFiles.lookup index with
        | some file => if file.canWrite then writeAt state index file bytes else state
        | none => state
    | _ => state

def refusal? (state : State) : Option Channel → Option FileError
  | some (.buffer _) => none
  | some (.file index) =>
      match state.openFiles.lookup index with
      | some file =>
          match if file.canWrite then state.files.node? file.location else none with
          | some (.device .full) => some .noSpace
          | some _ => none
          | none => if file.canWrite then none else some .badDescriptor
      | none => some .badDescriptor
  | _ => some .badDescriptor

def isBroken (state : State) : Option Channel → Bool
  | some (.buffer index) => (state.broken.lookup index).isSome
  | _ => false

def breakOff : Machine Unit := do
  let state ← get
  match state.effect 13 with
  | .ends => throw (.killed 13)
  | .runs _ =>
      set { state with
        lostOutput := some .brokenPipe
        signals := state.signals ++ [(state.process, 13)] }
  | _ => set { state with lostOutput := some .brokenPipe }

def await (event : Event) : Machine Unit := fun state =>
  .waiting event state fun world => .done (.ok ()) (state.inWorld world)

def awaitRoom (index : Nat) : Machine Unit := do
  if (← get).isFull index then
    await (.drained index)
    if isBroken (← get) (some (.buffer index)) then breakOff

def write (descriptor : Nat) (bytes : Bytes) : Machine Unit := do
  let state ← get
  let channel := state.descriptors.lookup descriptor
  if descriptor == 1 && !bytes.isEmpty then
    match refusal? state channel with
    | some error => set { state with lostOutput := some error }
    | none => pure ()
  if isBroken state channel then
    if !bytes.isEmpty then breakOff
  else
    writeTo channel bytes
    match channel with
    | some (.buffer index) => awaitRoom index
    | _ => return ()

def print (t : Text) : Machine Unit :=
  write 1 (Octets.bytes t)

/-- A complaint of the shell itself, with the script's name, a line and who speaks. -/
def complainAt (line : Nat) (t : Text) : Machine Unit := do
  let state ← get
  let place : Text := state.name ++ ": " ++ Text.ofNat line ++ ": "
  let speaker : Text :=
    match state.speaker with
    | some name => name ++ ": "
    | none => []
  write 2 (Octets.bytes (place ++ speaker ++ t ++ ['\n']))

def complain (t : Text) : Machine Unit := do
  complainAt (← get).line t

def supply (state : State) (descriptor : Nat) : Except FileError Supply :=
  match state.descriptors.lookup descriptor with
  | some (.supply index) =>
      match state.supplies.lookup index with
      | some supply => .ok supply
      | none => .error .badDescriptor
  | some (.file index) =>
      match (state.openFiles.lookup index).filter (·.canRead) with
      | none => .error .badDescriptor
      | some file =>
          match state.files.node? file.location with
          | some (.file bytes _) => .ok ⟨bytes.drop file.offset, false, none⟩
          | some (.device .null) | none => .ok ⟨[], false, none⟩
          | some (.device _) => .ok ⟨FileTree.zeros, true, none⟩
          | some _ => .error .isADirectory
  | _ => .error .badDescriptor

def leaveUnread (descriptor : Nat) (rest : Bytes) : Machine Unit :=
  modify fun state =>
    match state.descriptors.lookup descriptor with
    | some (.supply index) =>
        { state with
          supplies := state.supplies.map fun (other, supply) =>
            (other, if other == index then { supply with rest := rest } else supply) }
    | some (.file index) =>
        { state with
          openFiles := state.openFiles.map fun (other, file) =>
            if other == index then
              match state.files.node? file.location with
              | some (.file bytes _) => (other, { file with offset := bytes.length - rest.length })
              | _ => (other, file)
            else (other, file) }
    | _ => state

def pour (index : Nat) : Machine Unit :=
  modify fun state =>
    match state.supplies.lookup index with
    | some supply =>
        match supply.source with
        | some buffer =>
            let isClosed := state.closed.contains buffer
            let poured : Supply :=
              { supply with
                rest := supply.rest ++ state.written buffer
                source := if isClosed then none else some buffer }
            let world := if isClosed then state.release buffer
              else { state.toWorld with buffers := state.buffers.modify buffer (·.emptied) }
            { state with
              toWorld :=
                { world with
                  supplies := state.supplies.map fun (other, supply) =>
                    (other, if other == index then poured else supply) } }
        | none => state
    | none => state

def wantedAfter (size : Nat) : Nat :=
  min Buffer.capacity (max 4096 (2 * size))

/-- Waits for more to read where more may come; tells whether it may. -/
def awaitMore (descriptor : Nat) : Machine Bool := do
  let state ← get
  match state.descriptors.lookup descriptor, supply state descriptor with
  | some (.supply index), .ok ⟨rest, _, some buffer⟩ =>
      await (.grown buffer (wantedAfter rest.length))
      pour index
      return true
  | _, _ => return false

def patience : Nat := 1000000

def awaitAll (descriptor : Nat) : (fuel : Nat) → Machine Unit
  | 0 => await .never
  | fuel + 1 => do if ← awaitMore descriptor then awaitAll descriptor fuel

def readAll (descriptor : Nat) : Machine Bytes := do
  awaitAll descriptor patience
  match supply (← get) descriptor with
  | .ok supply =>
      if supply.isEndless then await .never
      leaveUnread descriptor []
      return supply.rest
  | .error _ => return []

def awaitLine (descriptor : Nat) : (fuel : Nat) → Machine Unit
  | 0 => await .never
  | fuel + 1 => do
      match supply (← get) descriptor with
      | .ok supply =>
          if supply.source.isSome && !supply.rest.contains 10 then
            if ← awaitMore descriptor then awaitLine descriptor fuel
      | .error _ => return ()

def nextLine (descriptor : Nat) : Machine (Bytes × Bool) := do
  awaitLine descriptor patience
  match supply (← get) descriptor with
  | .ok supply =>
      if supply.isEndless && !supply.rest.contains 10 then await .never
      let rest := supply.rest.dropWhile (· != 10)
      leaveUnread descriptor (rest.drop 1)
      return (supply.rest.takeWhile (· != 10), !rest.isEmpty)
  | .error _ => return ([], false)

/-!
# Status
-/

def setStatus (status : Nat) : Machine Unit :=
  modify fun state => { state with status := status }

def failAt {α : Type} (line : Nat) (t : Text) : Machine α := do
  complainAt line t
  setStatus 2
  throw .failed

def fail {α : Type} (t : Text) : Machine α := do
  failAt (← get).line t

def speakingAs {α : Type} (name : Text) (action : Machine α) : Machine α := fun before =>
  (action { before with speaker := some name }).andThen fun result after =>
    .done result { after with speaker := before.speaker }

def checkFailure : Machine Unit := do
  let state ← get
  if state.status != 0 && state.isIn .stopsOnFailure && !state.isTested then throw .left

def withTest {α : Type} (isTested : Bool) (action : Machine α) : Machine α := fun before =>
  (action { before with isTested := isTested }).andThen fun result after =>
    .done result { after with isTested := before.isTested }

def tested (action : Machine Unit) : Machine Unit :=
  withTest true action

def untested {α : Type} (action : Machine α) : Machine α :=
  withTest false action

/-!
# Waiting
-/

def yield : Machine Unit := do
  await (.time (← get).clock)

def spend (millis : Nat) : Machine Unit := do
  await (.time ((← get).clock + millis))

def checkSignals : Machine Unit := do
  match (← get).fatalSignal? with
  | some signal => throw (.killed signal)
  | none => return ()

def report (signal : Nat) : Machine Unit := do
  if !Signal.isUnremarkable signal then
    write 2 (Octets.bytes (Signal.description signal ++ ['\n']))

/-- Takes note of the end of a process that was waited for, and of others by the way. -/
def noteEnd : Machine Unit := do
  modify fun state =>
    let note := (state.process, 17)
    { state with
      missed := (state.jobs.map (·.process)).filter fun job => !state.living.contains job
      signals :=
        if (state.traps.lookup 17).isSome && !state.signals.contains note then
          state.signals ++ [note]
        else state.signals }
  checkSignals

/-!
# Parameters
-/

def setVariable (name value : Text) : Machine Unit := do
  let state ← get
  match state.bindings.set? name value with
  | none => fail (name ++ ": is read only")
  | some bindings =>
      let bindings := if state.isIn .exportsAll then bindings.markExported name else bindings
      set { state with bindings := bindings }

/-- Sets a variable in a script; what was known of programs or options may become void. -/
def assign (name value : Text) : Machine Unit := do
  setVariable name value
  if name == "PATH" then modify fun state => { state with located := [] }
  if name == "OPTIND" then
    match Text.digitsFrom? 0 value with
    | none => fail ("Illegal number: " ++ value)
    | some index => modify fun state => { state with place := ⟨max index 1, none⟩ }

def checkName (name : Text) : Machine Unit := do
  if !isName name then fail (name ++ ": bad variable name")

def unsetVariable (name : Text) : Machine Unit := do
  checkName name
  let state ← get
  if state.bindings.isReadOnly name then fail (name ++ ": is read only")
  set { state with bindings := state.bindings.erase name }

/-- What stands between parameters in one text: the first of the separators of fields. -/
def joint (bindings : Bindings) : Text :=
  ((bindings.get? "IFS").map (·.take 1)).getD [' ']

def value? (name : Text) : Machine (Option Text) := do
  let state ← get
  match name with
  | ['@'] | ['*'] =>
      return if state.arguments.isEmpty then none
        else some (Text.joinWith (joint state.bindings) state.arguments)
  | ['#'] => return some (Text.ofNat state.arguments.length)
  | ['?'] => return some (Text.ofNat state.status)
  | ['$'] => return some (Text.ofNat state.shell)
  | ['!'] => return state.lastJob.map Text.ofNat
  | ['-'] => return some (Mode.letters state.modes)
  | ['0'] => return some state.name
  | c :: _ =>
      if c.isDigit then
        return (Text.toWord? name).bind fun n => state.arguments[n - 1]?
      else return state.bindings.get? name
  | [] => return none

/-- The value of a parameter, which may have to have one; the arguments together need none. -/
def demandedValue? (name : Text) : Machine (Option Text) := do
  let value ← value? name
  if value.isNone && (← get).isIn .demandsParameters && name != "@" && name != "*" then
    fail (name ++ ": parameter not set")
  return value

def separators : Machine (List Char) := do
  return ((← get).bindings.get? "IFS").getD [' ', '\t', '\n']

/-!
# Scopes
-/

/-- Makes a variable the function's own; it keeps its value unless it gets another one. -/
def makeLocal (name : Text) (value : Option Text) : Machine Unit := do
  let state ← get
  let binding := state.bindings.binding name
  if binding.value.isNone && value.isNone then checkName name
  set { state with locals := state.locals.map (.variable binding :: ·) }
  match value with
  | some value => assign name value
  | none => return ()

def restoreAll : List Saved → Machine Unit
  | [] => return ()
  | .modes modes :: rest => do
      modify fun state => { state with modes := modes }
      restoreAll rest
  | .variable binding :: rest => do
      if binding.value.isNone then checkName binding.name
      modify fun state => { state with bindings := state.bindings.restore binding }
      restoreAll rest

/-- Runs an action that can make variables its own, as long as the shell goes on after it. -/
def withLocals (action : Machine Unit) : Machine Unit := do
  let outer := (← get).locals
  modify fun state => { state with locals := some [] }
  let result ← attempt action
  let saved := (← get).locals.getD []
  modify fun state => { state with locals := outer }
  match result with
  | .error .left => throw .left
  | .error .failed => throw .failed
  | .error halt => do
      restoreAll saved
      throw halt
  | .ok () => restoreAll saved

def fork (action : Machine Unit) : Machine ExitStatus := fun before =>
  let child := before.child
  let before := { before with jobs := before.freeNumber.2 }
  ((do yield; action : Machine Unit) child).andThen fun result after =>
    let world := (after.restoreDescriptors before).toWorld.remove child.process
    match result with
    | .error .expired => .done (.error .expired) after
    | .error (.killed signal) => .done (.ok (.signal signal)) (before.inWorld world)
    | _ => .done (.ok (.code (after.status % 256))) (before.inWorld world)

def inChild (action : Machine Unit) : Machine Unit := do
  match ← fork action with
  | .code status => setStatus status
  | .signal signal =>
      setStatus (128 + signal)
      report signal
  noteEnd

/-- Runs an action as a program, which takes the place of a process that ends with it. -/
def asProgram (action : Machine Unit) : Machine Unit := do
  if (← get).endsHere then action else inChild action

def pipeLength : Command → Nat
  | .pipe _ second => pipeLength second + 1
  | _ => 1

def launch (fuel : Nat) (command : Command) : Machine Unit := fun before =>
  let job := before.background
  let (number, jobs) := before.freeNumber
  let state :=
    { before.inWorld job.toWorld with
      jobs := ⟨number, job.process, pipeLength command, false⟩ :: jobs
      lastJob := some job.process
      status := 0 }
  .launching fuel command job state fun world => .done (.ok ()) (state.inWorld world)

/-- Starts a command that writes to a new buffer; tells its process and the buffer. -/
def launchWriter (fuel : Nat) (command : Command) : Machine (Nat × Nat) := fun before =>
  let index := before.buffers.length
  let writer :=
    { before with
      buffers := before.buffers ++ [Buffer.pipe]
      broken := before.broken.filter (·.1 != index) }.fork
  let writer :=
    { writer with
      kept := []
      descriptors := (1, .buffer index) :: writer.descriptors.filter (·.1 != 1) }
  let state := { before.inWorld writer.toWorld with jobs := before.freeNumber.2 }
  .launching fuel command writer state fun world =>
    .done (.ok (writer.process, index)) (state.inWorld world)

/-- Waits until a writer has ended, and says so if that was not of its own accord. -/
def awaitWriter (writer : Nat) : Machine Unit := do
  await (.ended [writer])
  match (← get).ended.lookup writer with
  | some (.signal signal) => report signal
  | _ => return ()

def collect (index : Nat) : Machine Bytes := do
  await (.closed index)
  let state ← get
  set { state with toWorld := state.release index }
  return state.written index

def awaitLull (buffer : Nat) : Machine Unit := do
  await (.lull buffer (wantedAfter 0))

def abandon (buffer : Nat) : Machine Unit :=
  modify fun state =>
    let isUsed := (state.buffers[buffer]?.map (·.isUsed)).getD false
    { state with broken := (buffer, isUsed) :: state.broken }

/-- Gives up a buffer unless another process could still write to it. -/
def giveUp (buffer : Nat) : Machine Unit :=
  modify fun state =>
    if state.living.length != 1 then state
    else
      { state with
        toWorld :=
          { state.release buffer with broken := state.broken.filter (·.1 != buffer) } }

def capture (action : Machine Unit) : Machine Bytes := do
  let before ← get
  let index := before.buffers.length
  set { before with
    buffers := before.buffers ++ [Buffer.empty]
    broken := before.broken.filter (·.1 != index)
    descriptors := (1, .buffer index) :: before.descriptors.filter (·.1 != 1)
    kept := before.kept ++ before.openBuffers }
  action
  modify fun state => { state with descriptors := before.descriptors, kept := before.kept }
  collect index

def openSupply (descriptor : Nat) (supply : Supply) : Machine Unit :=
  modify fun state =>
    { state with
      supplies := (state.openCount, supply) :: state.supplies
      openCount := state.openCount + 1
      descriptors :=
        (descriptor, .supply state.openCount) :: state.descriptors.filter (·.1 != descriptor) }

def openFile (descriptor : Nat) (file : OpenFile) : Machine Unit :=
  modify fun state =>
    { state with
      openFiles := (state.openCount, file) :: state.openFiles
      openCount := state.openCount + 1
      descriptors :=
        (descriptor, .file state.openCount) :: state.descriptors.filter (·.1 != descriptor) }

def setDescriptor (descriptor : Nat) (channel : Option Channel) : Machine Unit :=
  modify fun state =>
    let others := state.descriptors.filter (·.1 != descriptor)
    { state with
      descriptors :=
        match channel with
        | some channel => (descriptor, channel) :: others
        | none => others }

/-- Runs an action and closes again what it opened, unless the process ends. -/
def keepingDescriptors {α : Type} (action : Machine α) : Machine α := fun before =>
  (action { before with kept := before.kept ++ before.openBuffers }).andThen fun result after =>
    .done result { after.restoreDescriptors before with kept := before.kept }

def nestingLimit : Nat := 10000

def deeper (action : Machine Unit) : Machine Unit := fun before =>
  if nestingLimit ≤ before.nesting then .done (.error (.killed 11)) before
  else
    let inside := { before with nesting := before.nesting + 1, endsHere := false }
    (action inside).andThen fun result after =>
      .done result { after with nesting := before.nesting }

end Machine
end Shell
end StubAssist
