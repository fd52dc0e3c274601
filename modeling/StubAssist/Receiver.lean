import StubAssist.Text.LowerCase

/-!
# Receivers

How the receiver of the generated methods is named and typed: derived from the
struct's name or fixed, a pointer or a value.
-/

namespace StubAssist

inductive ReceiverType where
  | value
  | pointer
deriving DecidableEq, Repr

namespace ReceiverType

def name : ReceiverType → Text
  | value => "value"
  | pointer => "pointer"

def isPointer : ReceiverType → Bool
  | value => false
  | pointer => true

def parse (t : Text) : Except Text ReceiverType :=
  let lower := Text.lowerCase t
  if lower = "value" then .ok value
  else if lower = "pointer" || lower = "ptr" then .ok pointer
  else .error ("unknown receiver type '" ++ t ++ "', expected 'value' or 'pointer'")

end ReceiverType

inductive ReceiverNameMode where
  | derived
  | fixed
deriving DecidableEq, Repr

namespace ReceiverNameMode

def name : ReceiverNameMode → Text
  | derived => "derived"
  | fixed => "fixed"

def parse (t : Text) : Except Text ReceiverNameMode :=
  let lower := Text.lowerCase t
  if lower = "derived" then .ok derived
  else if lower = "fixed" then .ok fixed
  else .error ("unknown receiver name mode '" ++ t ++ "', expected 'derived' or 'fixed'")

end ReceiverNameMode

structure ReceiverSettings where
  nameMode : ReceiverNameMode
  nameLength : Nat
  fixedName : Text
  receiverType : ReceiverType
deriving DecidableEq, Repr

/-- The first `length` characters of the name in lower case. -/
def receiverPrefix (name : Text) (length : Nat) : Text :=
  (Text.lowerCase name).take length

namespace ReceiverSettings

def default : ReceiverSettings where
  nameMode := .derived
  nameLength := 1
  fixedName := []
  receiverType := .pointer

def receiverName (settings : ReceiverSettings) (structName : Text) : Text :=
  match settings.nameMode with
  | .fixed => settings.fixedName
  | .derived => receiverPrefix structName settings.nameLength

/-- A fixed receiver name has to be given, and not as blanks only. -/
def isComplete (settings : ReceiverSettings) : Bool :=
  settings.nameMode != .fixed || !Text.isAllBlank settings.fixedName

end ReceiverSettings

/-- Receiver settings given on the command line; what is absent stays as it was. -/
structure ReceiverOverrides where
  receiverType : Option ReceiverType
  nameLength : Option Nat
  name : Option Text
deriving DecidableEq, Repr

namespace ReceiverOverrides

def applyType (overrides : ReceiverOverrides) (settings : ReceiverSettings) :
    ReceiverSettings :=
  match overrides.receiverType with
  | none => settings
  | some receiverType => { settings with receiverType := receiverType }

/-- A length asks for a derived name. -/
def applyLength (overrides : ReceiverOverrides) (settings : ReceiverSettings) :
    ReceiverSettings :=
  match overrides.nameLength with
  | none => settings
  | some length => { settings with nameMode := .derived, nameLength := length }

/-- A name asks for that fixed name. -/
def applyName (overrides : ReceiverOverrides) (settings : ReceiverSettings) :
    ReceiverSettings :=
  match overrides.name with
  | none => settings
  | some name => { settings with nameMode := .fixed, fixedName := name }

def apply (overrides : ReceiverOverrides) (settings : ReceiverSettings) :
    ReceiverSettings :=
  overrides.applyName (overrides.applyLength (overrides.applyType settings))

end ReceiverOverrides
end StubAssist
