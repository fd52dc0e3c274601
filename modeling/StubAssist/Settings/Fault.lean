import StubAssist.Settings
import StubAssist.Settings.KeySpan

/-!
# Faults of settings

What settings can get wrong although each of them has the right type, and where
in the text the fault lies.
-/

namespace StubAssist

open Toml (Span)

inductive ToolTable where
  | generator
  | index
deriving DecidableEq, Repr

namespace ToolTable

def name : ToolTable → Text
  | generator => "generator"
  | index => "index"

end ToolTable

inductive Fault where
  | blankReceiverName
  | blankTool (table : ToolTable)
  | zeroTimeout (table : ToolTable)
deriving DecidableEq, Repr

namespace Fault

def message : Fault → Text
  | blankReceiverName => "fixed receiver name mode needs a receiver name"
  | blankTool table => table.name ++ ".tool must not be empty"
  | zeroTimeout table => table.name ++ ".timeoutSecs must be greater than zero"

def help : Fault → Text
  | blankReceiverName => "set fixedReceiverName, e.g. fixedReceiverName = \"s\""
  | blankTool _ => "name a program on PATH or an absolute path"
  | zeroTimeout _ => "use a timeout of at least 1 second"

/-- The setting that is to blame, as far as it can be found in the text. -/
def span? (source : Text) : Fault → Option Span
  | blankReceiverName =>
      (KeySpan.find "fixedReceiverName" source).or (KeySpan.find "receiverNameMode" source)
  | blankTool table => KeySpan.findInTable table.name "tool" source
  | zeroTimeout table => KeySpan.findInTable table.name "timeoutSecs" source

end Fault

namespace ReceiverSettings

/-- A fixed name must be a name; derived names are not looked at. -/
def fault? (settings : ReceiverSettings) : Option Fault :=
  if settings.isComplete then none else some .blankReceiverName

end ReceiverSettings

namespace ToolTable

def fault? (table : ToolTable) (tool : Text) (timeoutSeconds : Nat) : Option Fault :=
  if Text.isAllBlank tool then some (.blankTool table)
  else if timeoutSeconds = 0 then some (.zeroTimeout table)
  else none

end ToolTable

namespace Settings

/-- The first fault: of the receiver, then of the generator, then of the index. -/
def fault? (settings : Settings) : Option Fault :=
  settings.receiver.fault?
    |>.or (ToolTable.generator.fault? settings.generator.tool settings.generator.timeoutSeconds)
    |>.or (ToolTable.index.fault? settings.index.tool settings.index.timeoutSeconds)

end Settings
end StubAssist
