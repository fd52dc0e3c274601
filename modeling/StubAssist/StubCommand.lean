import StubAssist.AssistError
import StubAssist.Candidate
import StubAssist.Receiver
import StubAssist.Trigger

/-!
# Stub commands

What the stub generator is asked for: the receiver with its type, and the
qualified name of the interface.
-/

namespace StubAssist

structure StubCommand where
  /-- Receiver name and type, such as `f *Foo`. -/
  receiver : Text
  structName : Text
  interface : Text
deriving DecidableEq, Repr

def receiverExpression (settings : ReceiverSettings) (structName : Text) : Text :=
  let name := settings.receiverName structName
  match settings.receiverType with
  | .pointer => name ++ ' ' :: '*' :: structName
  | .value => name ++ ' ' :: structName

namespace StubCommand

def compose (trigger : Trigger) (candidate : Candidate) (settings : ReceiverSettings) :
    Except AssistError StubCommand :=
  if trigger.hasStructName then
    .ok ⟨receiverExpression settings trigger.structName, trigger.structName,
      candidate.qualifiedName⟩
  else
    .error (.missingStructName trigger.lineText)

def arguments (command : StubCommand) : List Text :=
  [command.receiver, command.interface]

def argumentLine (command : StubCommand) : Text :=
  command.receiver ++ ' ' :: command.interface

/-- The arguments as typed into a shell, the receiver in double quotes. -/
def shellForm (command : StubCommand) : Text :=
  '"' :: command.receiver ++ '"' :: ' ' :: command.interface

end StubCommand

structure Generator where
  tool : Text
  arguments : List Text
  timeoutMillis : Nat
deriving DecidableEq, Repr

namespace Generator

/-- The whole command line as a user would type it. -/
def commandLine (generator : Generator) (command : StubCommand) : Text :=
  Text.joinWith [' '] (generator.tool :: generator.arguments) ++ ' ' :: command.shellForm

end Generator
end StubAssist
