import StubAssist.Shell.Builtin.Alias
import StubAssist.Shell.Builtin.Control
import StubAssist.Shell.Builtin.Input
import StubAssist.Shell.Builtin.Output
import StubAssist.Shell.Builtin.Settings
import StubAssist.Shell.Job

/-!
# Built-in commands

Commands that a shell carries out itself, since they work on its own state or are
needed all the time.
-/

namespace StubAssist
namespace Shell

structure Builtin where
  declares : Bool
  action : Option Action

namespace Builtin

open Machine

def plain (action : Action) : Builtin := ⟨false, some action⟩

def declaring (action : Action) : Builtin := ⟨true, some action⟩

def running : Builtin := ⟨false, none⟩

def ends (status : Nat) : Action := fun _ => setStatus status

def specialTable : List (Text × Builtin) :=
  [(":", plain (ends 0)), (".", running), ("break", plain leaveLoop),
    ("continue", plain nextRound), ("eval", running), ("exec", running), ("exit", plain exit),
    ("return", plain leaveFunction), ("set", plain set), ("shift", plain shift),
    ("times", plain times), ("trap", plain Job.trap), ("unset", plain unset),
    ("export", declaring exportNames), ("readonly", declaring fix),
    ("local", declaring declareLocal)]

def regularTable : List (Text × Builtin) :=
  [("true", plain (ends 0)), ("false", plain (ends 1)), ("echo", plain echo),
    ("printf", plain printf), ("test", plain test), ("[", plain bracket), ("read", plain read),
    ("cd", plain cd), ("chdir", plain cd), ("pwd", plain pwd), ("umask", plain umask),
    ("getopts", plain getopts), ("wait", plain Job.wait), ("kill", plain Job.kill),
    ("jobs", plain Job.list), ("fg", plain Job.move), ("bg", plain Job.move),
    ("alias", plain setAliases), ("unalias", plain unalias), ("ulimit", plain ulimit),
    ("command", running), ("type", running), ("hash", running)]

def find? (name : Text) : Option Builtin :=
  (specialTable.lookup name).or (regularTable.lookup name)

/-- Runs a command as the one who speaks; output that went nowhere is a failure too. -/
def carryOut (name : Text) (action : Machine Unit) : Machine Unit :=
  speakingAs name do
    modify fun state => { state with lostOutput := none }
    action
    if (← get).lostOutput.isSome then
      complain (name ++ ": I/O error")
      modify fun state => { state with lostOutput := none, status := state.status ||| 1 }

end Builtin
end Shell
end StubAssist
