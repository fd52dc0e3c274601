import StubAssist.Text

/-!
# Triggers

The quick fix is on offer for a line that mentions `struct`.  The struct it is
meant for is the line's second word, which may be missing.
-/

namespace StubAssist

def structKeyword : Text :=
  ['s', 't', 'r', 'u', 'c', 't']

def mentionsStruct (line : Text) : Bool :=
  Text.contains structKeyword line

structure Trigger where
  lineText : Text
  structName : Text
deriving DecidableEq, Repr

namespace Trigger

def detect (line : Text) : Option Trigger :=
  if mentionsStruct line then
    some ⟨line, ((Text.words line)[1]?).getD []⟩
  else
    none

def hasStructName (trigger : Trigger) : Bool :=
  !trigger.structName.isEmpty

end Trigger
end StubAssist
