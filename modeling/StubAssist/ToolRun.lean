import StubAssist.AssistError
import StubAssist.StubCommand
import StubAssist.Text.Shortest
import StubAssist.Text.Utf8

/-!
# Tool runs

An external tool is started without a shell, with nothing to read, and is
stopped when its time is over.  What became of it is an outcome; a report says
in words what an outcome means to the user.
-/

namespace StubAssist

structure Invocation where
  program : Text
  arguments : List Text
  directory : Text
  timeoutMillis : Nat
deriving DecidableEq, Repr

inductive ExitStatus where
  | code (number : Nat)
  | signal (number : Nat)
deriving DecidableEq, Repr

namespace ExitStatus

def isSuccess (status : ExitStatus) : Bool :=
  status == .code 0

def signalNames : List (Nat × Text) :=
  [(1, "SIGHUP"), (2, "SIGINT"), (3, "SIGQUIT"), (4, "SIGILL"), (5, "SIGTRAP"),
    (6, "SIGABRT"), (7, "SIGBUS"), (8, "SIGFPE"), (9, "SIGKILL"), (10, "SIGUSR1"),
    (11, "SIGSEGV"), (12, "SIGUSR2"), (13, "SIGPIPE"), (14, "SIGALRM"), (15, "SIGTERM"),
    (16, "SIGSTKFLT"), (17, "SIGCHLD"), (18, "SIGCONT"), (19, "SIGSTOP"), (20, "SIGTSTP"),
    (21, "SIGTTIN"), (22, "SIGTTOU"), (23, "SIGURG"), (24, "SIGXCPU"), (25, "SIGXFSZ"),
    (26, "SIGVTALRM"), (27, "SIGPROF"), (28, "SIGWINCH"), (29, "SIGIO"), (30, "SIGPWR"),
    (31, "SIGSYS")]

def toText : ExitStatus → Text
  | code number => "exit status: " ++ Text.ofNat number
  | signal number =>
      "signal: " ++ Text.ofNat number ++
        match signalNames.lookup number with
        | some name => ' ' :: '(' :: name ++ ")"
        | none => []

end ExitStatus

inductive ToolOutcome where
  | notStarted (reason : Text)
  | notAwaited (reason : Text)
  | timedOut
  | finished (status : ExitStatus) (stdout stderr : Utf8.Bytes)
deriving DecidableEq, Repr

structure ToolReport where
  stdout : Text
  /-- What was written to the error stream, if it is not blank. -/
  stderr : Option Text
  failure : Option Text
deriving DecidableEq, Repr

namespace ToolReport

def ofFailure (reason : Text) : ToolReport :=
  ⟨[], none, some reason⟩

def ofOutcome (invocation : Invocation) : ToolOutcome → ToolReport
  | .notStarted reason =>
      ofFailure ("failed to run '" ++ invocation.program ++ "': " ++ reason)
  | .notAwaited reason =>
      ofFailure ("failed to wait for '" ++ invocation.program ++ "': " ++ reason)
  | .timedOut =>
      ofFailure ("'" ++ invocation.program ++ "' timed out after " ++
        Shortest.secondsOfMillis invocation.timeoutMillis ++ "s")
  | .finished status stdout stderr =>
      let complaints := Text.trim (Utf8.decodeLossy stderr)
      { stdout := Utf8.decodeLossy stdout
        stderr := if complaints.isEmpty then none else some complaints
        failure :=
          if status.isSuccess then none
          else some ("'" ++ invocation.program ++ "' exited with " ++ status.toText) }

def isSuccess (report : ToolReport) : Bool :=
  report.failure.isNone && report.stderr.isNone

def trouble (report : ToolReport) : Option Text :=
  match report.failure, report.stderr with
  | none, none => none
  | some failure, some stderr => some (failure ++ ": " ++ stderr)
  | some failure, none => some failure
  | none, some stderr => some stderr

/-- The generated stubs; output next to any trouble is not trusted. -/
def stub (report : ToolReport) : Except AssistError Text :=
  match report.trouble with
  | none => .ok report.stdout
  | some reason => .error (.generator reason)

end ToolReport

/-- How tools run in a world that they may change. -/
structure ToolRunner (ω : Type) where
  run : ω → Invocation → ToolOutcome × ω

namespace ToolRunner

def report {ω : Type} (runner : ToolRunner ω) (world : ω) (invocation : Invocation) :
    ToolReport × ω :=
  let (outcome, world) := runner.run world invocation
  (ToolReport.ofOutcome invocation outcome, world)

end ToolRunner

namespace Generator

def invocation (generator : Generator) (command : StubCommand) (directory : Text) :
    Invocation where
  program := generator.tool
  arguments := generator.arguments ++ command.arguments
  directory := directory
  timeoutMillis := generator.timeoutMillis

end Generator
end StubAssist
