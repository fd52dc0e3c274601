import StubAssist.ToolRun

/-!
# Signals

Signals by number and by name, and what they do to a process that has no plans for
them.  In the place of a signal, zero stands for the end of a shell.
-/

namespace StubAssist
namespace Shell
namespace Signal

def bound : Nat := 65

/-- The name of a signal in scripts; a few have none but their number. -/
def name (n : Nat) : Text :=
  if n == 0 then "EXIT"
  else if n == 34 then "RTMIN"
  else if n == 64 then "RTMAX"
  else if 34 < n && n < 50 then "RTMIN+" ++ Text.ofNat (n - 34)
  else if 50 ≤ n && n < 64 then "RTMAX-" ++ Text.ofNat (64 - n)
  else
    match if n == 16 then none else ExitStatus.signalNames.lookup n with
    | some long => long.drop 3
    | none => Text.ofNat n

/-- The signal that a number or a name in letters of any case means, from `least` on by name. -/
def ofText? (least : Nat) (t : Text) : Option Nat :=
  match if t.isEmpty then none else Text.digitsFrom? 0 t with
  | some n => if n < bound then some n else none
  | none =>
      (List.range bound).find? fun n => decide (least ≤ n) && name n == t.map Char.toUpper

def descriptions : List (Nat × Text) :=
  [(1, "Hangup"), (2, "Interrupt"), (3, "Quit"), (4, "Illegal instruction"),
    (5, "Trace/breakpoint trap"), (6, "Aborted"), (7, "Bus error"),
    (8, "Floating point exception"), (9, "Killed"), (10, "User defined signal 1"),
    (11, "Segmentation fault"), (12, "User defined signal 2"), (13, "Broken pipe"),
    (14, "Alarm clock"), (15, "Terminated"), (16, "Stack fault"),
    (24, "CPU time limit exceeded"), (25, "File size limit exceeded"),
    (26, "Virtual timer expired"), (27, "Profiling timer expired"), (29, "I/O possible"),
    (30, "Power failure"), (31, "Bad system call")]

def description (n : Nat) : Text :=
  if 34 ≤ n then "Real-time signal " ++ Text.ofNat (n - 34)
  else (descriptions.lookup n).getD ("Unknown signal " ++ Text.ofNat n)

def isUnremarkable (n : Nat) : Bool :=
  n == 2 || n == 13

inductive Effect where
  | nothing
  | ends
  | stops
  | runs (action : Text)
deriving DecidableEq, Repr

/-- What a signal does to a process that has set these actions; an empty one makes it deaf. -/
def effect (deafTo : List Nat) (traps : List (Nat × Text)) (n : Nat) : Effect :=
  if n == 9 then .ends
  else if n == 19 then .stops
  else if deafTo.contains n then .nothing
  else
    match traps.lookup n with
    | some [] => .nothing
    | some action => .runs action
    | none =>
        if [17, 18, 23, 28].contains n then .nothing
        else if [20, 21, 22].contains n then .stops
        else .ends

end Signal
end Shell
end StubAssist
