import StubAssist.Shell.Machine

/-!
# Programs as processes

A program is run on the state of the process that it belongs to.  What it has written
goes out whenever it stops for an answer, so that everything happens in the order in
which it was asked for.
-/

namespace StubAssist
namespace Shell
namespace Machine

def fileAt? (state : State) (descriptor : Nat) : Option (OpenFile × Nat) := do
  let channel ← state.descriptors.lookup descriptor
  match channel with
  | .file index =>
      let file ← state.openFiles.lookup index
      match ← state.files.node? file.location with
      | .file bytes _ => some (file, bytes.length)
      | _ => none
  | _ => none

def surroundingsOf (state : State) (environment : Variables) (name : Text) : Surroundings where
  name := name
  environment := environment
  inputFile := (fileAt? state 0).map (·.1.location)
  outputFile := (fileAt? state 1).map (·.1.location)
  hasInput := (state.descriptors.lookup 0).isSome
  hasOutput := (state.descriptors.lookup 1).isSome

def sceneOf (state : State) (status : Nat) : Scene where
  files := state.files
  written := []
  unread := none
  status := status
  signal := none

def settle (scene : Scene) : Machine Unit := do
  modify fun state => { state with files := { scene.files with clock := state.files.clock } }
  for (stream, t) in scene.written.reverse do
    write (match stream with | .output => 1 | .complaints => 2) (Octets.bytes t)
  match scene.unread, fileAt? (← get) 0 with
  | some rest, some _ => leaveUnread 0 (Octets.bytes rest)
  | _, _ => return ()

def intakeOf (state : State) (descriptor : Nat) : Except FileError Intake :=
  (supply state descriptor).map fun supply =>
    { text := Octets.ofBytes supply.rest
      isEndless := supply.isEndless
      isPartial := supply.source.isSome
      size := (fileAt? state descriptor).map (·.2) }

def writesAtOnce (name : Text) : Bool :=
  let last := (name.reverse.takeWhile (· != '/')).reverse
  last == "cat" || last == "tee"

/-- What goes out of so much output before the program has ended: blocks, if not all. -/
def released (isDirect : Bool) (output : Text) : Text :=
  if isDirect then output else output.take (output.length / 4096 * 4096)

/--
Waits until a program can go on with what there is to read, and takes it.  As long as more may
come, the program is tried with what is known: it may be able to end, and what it has written
goes out even if not.  Tells how much of its output has gone out; `fuel` bounds the attempts.
-/
def awaitIntake (isDirect : Bool) (descriptor status : Nat)
    (resume : Except FileError Intake → Scene → Course Unit) :
    (fuel : Nat) → (sent : Nat) → Machine (Except FileError Intake × Nat)
  | 0, sent => do
      await .never
      return (.error .badDescriptor, sent)
  | fuel + 1, sent => do
      let state ← get
      match intakeOf state descriptor with
      | .error error => return (.error error, sent)
      | .ok intake =>
          let take : Machine (Except FileError Intake × Nat) := do
            if !intake.isEndless then leaveUnread descriptor []
            return (.ok intake, sent)
          if !intake.isPartial then take
          else
            match resume (.ok intake) (sceneOf state status) with
            | .pausing none scene _ =>
                let out := released isDirect (scene.writtenTo .output)
                if sent < out.length then write 1 (Octets.bytes (out.drop sent))
                let _ ← awaitMore descriptor
                awaitIntake isDirect descriptor status resume fuel (max sent out.length)
            | .done _ _ => take
            | _ =>
                let _ ← awaitMore descriptor
                awaitIntake isDirect descriptor status resume fuel sent

/-- Carries out what a program does; other programs are left to `serve`.  So much of its output
has gone out already. -/
def ofCourse (isDirect : Bool) (serve : Errand → Machine Ending) :
    (sent : Nat) → Course Unit → Machine Unit
  | sent, .done _ scene => do
      settle (scene.without sent)
      setStatus scene.status
      match scene.signal with
      | some signal => throw (.killed signal)
      | none => return ()
  | sent, .reading descriptor scene resume => do
      settle (scene.without sent)
      let (intake, sent) ← awaitIntake isDirect descriptor scene.status resume patience 0
      ofCourse isDirect serve sent (resume intake (sceneOf (← get) scene.status))
  | sent, .pausing millis scene resume => do
      settle (scene.without sent)
      match millis with
      | some millis => spend millis
      | none => await .never
      ofCourse isDirect serve 0 (resume (sceneOf (← get) scene.status))
  | sent, .calling errand scene resume => do
      settle (scene.without sent)
      let ending ← serve errand
      ofCourse isDirect serve 0 (resume ending (sceneOf (← get) scene.status))

/-!
# Limits
-/

/-- A run that a signal ends when the time is over, together with all later processes. -/
def within {α : Type} (deadline signal process : Nat) : Progress α → Progress α
  | .done result state => .done result state
  | .launching fuel command job state resume =>
      .launching fuel command job state fun world =>
        within deadline signal process (resume world)
  | .waiting event state resume =>
      .waiting (.before deadline event) state fun world =>
        let isOver := match event with
          | .time clock => deadline ≤ clock && deadline ≤ world.clock
          | _ => deadline ≤ world.clock
        if isOver then
          let others := world.living.filter fun other => process < other
          let world := { world with signals := world.signals ++ others.map (·, signal) }
          .done (.error (.killed signal)) (state.inWorld world)
        else within deadline signal process (resume world)

/-- Runs an action as a process, for a limited time; tells whether the time was over. -/
def forkWithin (limit : Option (Nat × Nat)) (action : Machine Unit) : Machine Ending := do
  match limit with
  | none => return .ended (← fork action)
  | some (millis, signal) =>
      let before ← get
      let deadline := before.clock + millis
      let status ← fork fun state => within deadline signal state.process (action state)
      let isOver := deadline ≤ (← get).clock && status == .signal signal
      return if isOver then .interrupted status else .ended status

end Machine
end Shell
end StubAssist
