import StubAssist.Shell.Condition
import StubAssist.Shell.Format
import StubAssist.Shell.Machine

/-!
# Printing and testing

Built-in commands that only print or compare their arguments.
-/

namespace StubAssist
namespace Shell
namespace Builtin

open Machine

def echo : Action := fun arguments => do
  let (endsLine, arguments) :=
    match arguments with
    | ['-', 'n'] :: rest => (false, rest)
    | _ => (true, arguments)
  let line := Text.joinWith [' '] arguments
  let (bytes, isStopped) := Format.expand (line.length + 1) line
  write 1 (bytes ++ if endsLine && !isStopped then [10] else [])
  setStatus 0

def printf : Action := fun arguments => do
  match Options.read [] arguments with
  | .error reason => fail reason
  | .ok (_, []) => fail "usage: printf format [arg ...]"
  | .ok (_, template :: arguments) =>
      let (bytes, complaints, stop) := Format.format template arguments
      for reason in complaints do complain reason
      match stop with
      | some reason =>
          complain reason
          write 1 bytes
          setStatus 2
          throw .failed
      | none =>
          write 1 bytes
          setStatus (if complaints.isEmpty then 0 else 1)

def test : Action := fun words => do
  match Condition.evaluate (← get).files words with
  | .ok holds => setStatus (if holds then 0 else 1)
  | .error flaw => fail flaw.message

def bracket : Action := fun words =>
  if words.getLast? == some [']'] then test words.dropLast else fail "missing ]"

end Builtin
end Shell
end StubAssist
