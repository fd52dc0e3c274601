import StubAssist.Shell.Machine

/-!
# Jobs and signals

The built-in commands with which a script waits for its jobs, sends signals, and says
what it does when one comes.
-/

namespace StubAssist
namespace Shell
namespace Job

open Machine

/-!
# Jobs by name
-/

inductive Name where
  | current
  | previous
  | number (n : Nat)
  | command (start : Text)
  | nothing
deriving DecidableEq, Repr

def Name.ofText : Text → Name
  | ['%'] | ['%', '%'] | ['%', '+'] => .current
  | ['%', '-'] => .previous
  | '%' :: t =>
      match Text.digitsFrom? 0 t with
      | some n => .number n
      | none => .command t
  | _ => .nothing

def named (jobs : List Job) (t : Text) : Except Text Job :=
  let orElse := fun (job : Option Job) (reason : Text) =>
    match job with
    | some job => Except.ok job
    | none => .error reason
  let missing : Text := "No such job: " ++ t
  match Name.ofText t with
  | .current => orElse jobs.head? "No current job"
  | .previous => orElse (jobs.drop 1).head? "No previous job"
  | .number n => orElse (jobs.find? (·.number == n)) missing
  | .command ['?'] =>
      if 1 < jobs.length then .error (t ++ ": ambiguous") else orElse jobs.head? missing
  | _ => .error missing

def find (t : Text) : Machine Job := do
  match named (← get).jobs t with
  | .ok job => return job
  | .error reason => fail reason

def markOver (processes : List Nat) : Machine Unit :=
  modify fun state =>
    { state with
      jobs := state.jobs.map fun job =>
        { job with isOver := job.isOver || processes.contains job.process } }

/-!
# Waiting
-/

/-- Waits for the end of processes; a signal with an action set for it may come first, and does
so where both come at once. -/
def awaitEnd (processes : List Nat) : Machine (Option Nat) := do
  let start := (← get).clock
  await (.ended processes)
  let state ← get
  let isFirst := state.clock == start || processes.any (state.living.contains ·)
  return if isFirst then state.trappedSignal? else none

def processOf? (t : Text) : Machine (Option Nat) := do
  if t.head? == some '%' then return some (← find t).process
  match if t.isEmpty then none else Text.digitsFrom? 0 t with
  | none => fail ("Illegal number: " ++ t)
  | some process => return if (← get).jobs.any (·.process == process) then some process else none

/-- Waits for jobs in turn; the status is that of the last one that is known. -/
def waitFor : (status : Nat) → List Text → Machine Unit
  | status, [] => setStatus status
  | status, t :: rest => do
      match ← processOf? t with
      | none => waitFor status rest
      | some job =>
          match ← awaitEnd [job] with
          | some signal => setStatus (128 + signal)
          | none =>
              let state ← get
              markOver [job]
              match state.ended.lookup job with
              | some (.code status) =>
                  noteEnd
                  waitFor status rest
              | some (.signal signal) =>
                  if !state.missed.contains job then report signal
                  noteEnd
                  waitFor (128 + signal) rest
              | none => waitFor status rest

def wait : Action := fun arguments => do
  match Options.read [] arguments with
  | .error reason => fail reason
  | .ok (_, []) =>
      let processes := (← get).jobs.map (·.process)
      match ← awaitEnd processes with
      | some signal => setStatus (128 + signal)
      | none =>
          markOver processes
          noteEnd
          setStatus 0
  | .ok (_, jobs) => waitFor 127 jobs

/-!
# Showing jobs
-/

def progress (state : State) (job : Job) : Text :=
  if state.living.contains job.process then "Running"
  else
    match state.ended.lookup job.process with
    | some (.signal signal) => Signal.description signal
    | some (.code 0) | none => "Done"
    | some (.code status) => "Done(" ++ Text.ofNat status ++ ")"

def display (showsProcess : Bool) (job : Job) : Machine Unit := do
  let state ← get
  let mark : Char :=
    if state.jobs.head? == some job then '+'
    else if (state.jobs.drop 1).head? == some job then '-'
    else ' '
  let start := '[' :: Text.ofNat job.number ++ [']', ' ', mark, ' '] ++
    if showsProcess then Text.ofNat job.process ++ [' '] else []
  let shown := start ++ progress state job
  let pipes : Text := if showsProcess then []
    else (List.replicate (job.size - 1) " | ".toList).flatten
  print (shown ++ List.replicate (max 1 (33 - shown.length)) ' ' ++ pipes ++ ['\n'])
  if !state.living.contains job.process then
    modify fun state => { state with jobs := state.jobs.filter (·.number != job.number) }

def list : Action := fun arguments => do
  match Options.read "lp" arguments with
  | .error reason => fail reason
  | .ok (options, names) =>
      let jobs ← if names.isEmpty then pure (← get).jobs else names.mapM find
      for job in jobs do
        if (options.getLast?.map (·.1)) == some 'p' then
          print (Text.ofNat job.process ++ ['\n'])
        else display (!options.isEmpty) job
      setStatus 0

/-- Would take a job to the foreground or the background, which only a terminal can. -/
def move : Action := fun arguments => do
  match Options.read [] arguments with
  | .error reason => fail reason
  | .ok (_, names) =>
      let _ ← find (names.headD ['%'])
      fail ("job " ++ names.headD "(null)" ++ " not created under job control")

/-!
# Sending signals
-/

def killUsage : Text :=
  "Usage: kill [-s sigspec | -signum | -sigspec] [pid | job]... or\nkill -l [exitstatus]"

def killArguments : List Text → Except Text (Nat × List Text)
  | ['-', 's'] :: rest =>
      match rest with
      | [] => .error "No arg for -s option"
      | name :: targets =>
          match Signal.ofText? 1 name with
          | some signal => .ok (signal, targets)
          | none => .error ("invalid signal number or name: " ++ name)
  | ['-', '-'] :: targets => .ok (15, targets)
  | ('-' :: name) :: targets =>
      match Signal.ofText? 1 name with
      | some signal => .ok (signal, targets)
      | none => .error ("Illegal option -" ++ name.take 1)
  | targets => .ok (15, targets)

def sendTo (signal : Nat) : (status : Nat) → List Text → Machine Unit
  | status, [] => setStatus status
  | status, t :: rest => do
      let isGroup := t.head? == some '-' || t.head? == some '%'
      let digits := if t.head? == some '-' then t.drop 1 else t
      let process ←
        if t.head? == some '%' then pure (← find t).process
        else
          match if digits.isEmpty then none else Text.digitsFrom? 0 digits with
          | none => fail ("Illegal number: " ++ digits)
          | some process => pure process
      let state ← get
      if !isGroup && state.living.contains process then
        if signal != 0 then set { state with signals := state.signals ++ [(process, signal)] }
        sendTo signal status rest
      else
        complain "No such process\n"
        sendTo signal 1 rest

/-- The names of all signals, or of the one that a number or a status stands for. -/
def listSignals : Action
  | [] => do
      print "0\n"
      for n in (List.range Signal.bound).drop 1 do print (Signal.name n ++ ['\n'])
      setStatus 0
  | t :: _ => do
      match if t.isEmpty then none else Text.digitsFrom? 0 t with
      | none => fail ("Illegal number: " ++ t)
      | some n =>
          let signal := if 128 < n then n - 128 else n
          if 0 < signal && signal < Signal.bound then
            print (Signal.name signal ++ ['\n'])
            setStatus 0
          else fail ("invalid signal number or exit status: " ++ t)

def kill : Action
  | ['-', 'l'] :: rest => listSignals rest
  | arguments =>
      match killArguments arguments with
      | .error reason => fail reason
      | .ok (_, []) => fail killUsage
      | .ok (signal, targets) => sendTo signal 0 targets

/-!
# Receiving signals
-/

def showTraps : Machine Unit := do
  let traps := (← get).traps
  for n in List.range Signal.bound do
    match traps.lookup n with
    | some action => print ("trap -- " ++ inFullQuotes action ++ ' ' :: Signal.name n ++ ['\n'])
    | none => pure ()

/-- Sets an action for signals, or takes it back, up to the first that does not exist. -/
def setTraps (action : Option Text) : List Text → Machine Unit
  | [] => setStatus 0
  | t :: rest => do
      match Signal.ofText? 0 t with
      | none =>
          write 2 (Octets.bytes ("trap: " ++ t ++ ": bad trap\n"))
          setStatus 1
      | some n =>
          modify fun state =>
            { state with
              traps := (action.map (n, ·)).toList ++ state.traps.filter (·.1 != n) }
          setTraps action rest

def isNumber (t : Text) : Bool :=
  t.all Char.isDigit && (Signal.ofText? 0 t).isSome

/-- The arguments of `trap` after its options: an action and signals, or signals alone. -/
def setTrapsFrom : Action
  | [] => do
      showTraps
      setStatus 0
  | [t] => setTraps none [t]
  | t :: rest =>
      if isNumber t then setTraps none (t :: rest)
      else setTraps (if t == "-" then none else some t) rest

def trap : Action := fun arguments =>
  match Options.read [] arguments with
  | .error reason => fail reason
  | .ok (_, arguments) => setTrapsFrom arguments

end Job
end Shell
end StubAssist
