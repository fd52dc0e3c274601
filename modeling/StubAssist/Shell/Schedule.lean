import StubAssist.Shell.Run

/-!
# Processes side by side

One process runs at a time, until it ends or has to wait.  Time passes only when all
of them wait.
-/

namespace StubAssist
namespace Shell

open Machine

namespace Event

def withoutTime : Event → Event
  | .before _ event => event.withoutTime
  | event => event

def time? : Event → Option Nat
  | .time clock => some clock
  | .before clock event => some (((event.time?).map (min clock)).getD clock)
  | _ => none

end Event

structure Waiter where
  event : Event
  state : State
  /-- Whether the process is the program that it runs, and not a shell around it. -/
  isProgram : Bool
  resume : World → Progress Unit

structure System where
  world : World
  waiters : List Waiter
  outcome : Option ExitStatus

namespace System

/-!
# Running one process
-/

def unwrapped : Command → Command
  | .subshell command => command
  | command => command

def runJob (fuel : Nat) (command : Command) : Machine Unit :=
  runToEnd fuel do
    match command with
    | .redirected line command redirections =>
        modify fun state => { state with line := line }
        if ← redirect fuel true [] redirections then run fuel (unwrapped command)
        else setStatus 2
    | .simple line assignments words redirections =>
        modify fun state => { state with line := line }
        if ← redirect fuel false [] redirections then
          modify fun state => { state with endsHere := true }
          run fuel (.simple line assignments words [])
        else setStatus 2
    | command => run fuel (unwrapped command)

def isSimple : Command → Bool
  | .simple .. => true
  | _ => false

def finish (system : System) (process : Nat) (status : ExitStatus) : System :=
  { system with
    world := system.world.finish process status
    outcome := if process == State.firstProcess then some status else system.outcome }

def enqueue (system : System) (waiter : Waiter) : System :=
  { system with waiters := system.waiters ++ [waiter] }

def follow (system : System) (isProgram : Bool) : Progress Unit → System
  | .done (.error .expired) state =>
      { system with world := state.toWorld }.enqueue
        ⟨.never, state, isProgram, fun world => .done (.error .expired) (state.inWorld world)⟩
  | .done (.error (.killed signal)) state =>
      { system with world := state.toWorld }.finish state.process (.signal signal)
  | .done _ state =>
      { system with world := state.toWorld }.finish state.process (.code (state.status % 256))
  | .waiting event state resume =>
      { system with world := state.toWorld }.enqueue ⟨event, state, isProgram, resume⟩
  | .launching fuel command job state resume =>
      let started : Waiter :=
        { event := .time job.clock
          state := job
          isProgram := isSimple command
          resume := fun world => runJob fuel command (job.inWorld world) }
      (system.enqueue started).follow isProgram (resume state.toWorld)

/-!
# Signals
-/

/-- The program that a process has been waiting for goes on alone when the process ends. -/
def orphan? (waiter : Waiter) : Option Waiter :=
  match waiter.event, waiter.isProgram with
  | .time _, false =>
      let state := { waiter.state with process := 0, kept := [] }
      some { waiter with
        state := state
        resume := fun world => .done (.ok ()) (state.inWorld world) }
  | _, _ => none

def replace (system : System) (process : Nat) (others : Waiter → List Waiter) : System :=
  { system with
    waiters := system.waiters.flatMap fun waiter =>
      if waiter.state.process == process then others waiter else [waiter] }

def forget (system : System) (process signal : Nat) : System :=
  { system with
    world := { system.world with signals := system.world.signals.erase (process, signal) } }

/-- What a signal does to a process that waits; one with an action may have to wait too. -/
def receive (system : System) (waiter : Waiter) (signal : Nat) : System :=
  let process := waiter.state.process
  match waiter.state.effect signal with
  | .nothing => system.forget process signal
  | .stops =>
      (system.forget process signal).replace process fun waiter => [{ waiter with event := .never }]
  | .ends =>
      (system.replace process fun waiter => (orphan? waiter).toList).finish process (.signal signal)
  | .runs _ =>
      system.replace process fun waiter =>
        match waiter.event.withoutTime with
        | .ended _ => [{ waiter with event := .time system.world.clock }]
        | _ => [waiter]

def deliver (system : System) : System :=
  system.world.signals.foldl (fun system (process, signal) =>
    match system.waiters.find? (·.state.process == process) with
    | some waiter => system.receive waiter signal
    | none => system) system

/-!
# Time
-/

def writers (system : System) (waiter : Waiter) (buffer : Nat) : List Waiter :=
  system.waiters.filter fun other =>
    other.state.process != waiter.state.process && other.state.holds buffer

def isClosed (system : System) (waiter : Waiter) (buffer : Nat) : Bool :=
  (system.writers waiter buffer).isEmpty

def hasCome (system : System) (waiter : Waiter) : Event → Bool
  | .time clock => decide (clock ≤ system.world.clock)
  | .ended processes => !processes.any (system.world.living.contains ·)
  | .closed buffer => system.isClosed waiter buffer
  | .grown buffer wanted | .lull buffer wanted =>
      wanted ≤ system.world.pending buffer || system.isClosed waiter buffer
  | .drained buffer =>
      !system.world.isFull buffer || (system.world.broken.lookup buffer).isSome
  | .never => false
  | .before clock event => decide (clock ≤ system.world.clock) || system.hasCome waiter event

def isReady (system : System) (waiter : Waiter) : Bool :=
  system.hasCome waiter waiter.event

def isPatient (system : System) (waiter : Waiter) : Bool :=
  match waiter.event.withoutTime with
  | .grown buffer _ => system.world.pending buffer != 0
  | .lull _ _ => true
  | _ => false

def noteClosed (system : System) (waiter : Waiter) : System :=
  match waiter.event.withoutTime with
  | .grown buffer _ =>
      if !system.isClosed waiter buffer then system
      else
        { system with
          world := { system.world with closed := buffer :: system.world.closed } }
  | _ => system

/-- Whether a process has done all that it is followed in, as if it went on with that for ever,
or reads from such a process. -/
def isSpent (system : System) (waiter : Waiter) : Bool :=
  match waiter.event.withoutTime with
  | .never => true
  | .grown buffer _ =>
      let writers := system.writers waiter buffer
      system.world.pending buffer == 0 && !writers.isEmpty && writers.all (·.event == .never)
  | _ => false

/-- Who goes on writing for ever where nobody reads any more does not survive that. -/
def stopWriters (system : System) : System :=
  if system.world.broken.isEmpty then system
  else
    let isLost := fun (waiter : Waiter) =>
      system.isSpent waiter &&
        system.world.broken.any fun (buffer, isUsed) => isUsed && waiter.state.holds buffer
    (system.waiters.filter isLost).foldl (fun system waiter =>
      (system.replace waiter.state.process fun _ => []).finish waiter.state.process
        (.signal 13)) system

def nextTime? (system : System) : Option Nat :=
  (system.waiters.filterMap (·.event.time?)).min?

def isOver (system : System) : Bool :=
  system.outcome.isSome &&
    !system.waiters.any fun waiter => waiter.state.holds 0 || waiter.state.holds 1

def first? (system : System) (p : Waiter → Bool) : Option (Waiter × List Waiter) :=
  match system.waiters.span fun waiter => !p waiter with
  | (before, waiter :: after) => some (waiter, before ++ after)
  | (_, []) => none

def next? (system : System) : Option (Waiter × List Waiter) :=
  (system.first? system.isReady).or (system.first? system.isPatient)

/-- Lets time pass and processes run until all is over, which has to be before the deadline. -/
def run : (fuel : Nat) → (deadline : Nat) → System → Option ExitStatus × World
  | 0, _, system => (none, system.world)
  | fuel + 1, deadline, system =>
      let system := system.deliver.stopWriters
      if system.isOver then (system.outcome, system.world)
      else
        match system.next? with
        | some (waiter, others) =>
            let rest := { system with waiters := others }.noteClosed waiter
            run fuel deadline (rest.follow waiter.isProgram (waiter.resume rest.world))
        | none =>
            match system.nextTime? with
            | none => (none, system.world)
            | some clock =>
                if deadline ≤ clock then (none, system.world)
                else run fuel deadline { system with world := system.world.goOnTo clock }

def runAll (fuel deadline : Nat) (isProgram : Bool) (machine : Machine Unit) (state : State) :
    Option ExitStatus × World :=
  let system : System := ⟨state.toWorld, [], none⟩
  run (10 * fuel) deadline (system.follow isProgram (machine state))

end System
end Shell
end StubAssist
