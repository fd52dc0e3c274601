import StubAssist.Text

/-!
# Notifications

Messages for the user that do not hold up the work.
-/

namespace StubAssist

inductive Severity where
  | error
  | warning
  | info
deriving DecidableEq, Repr

namespace Severity

def name : Severity → Text
  | error => "error"
  | warning => "warning"
  | info => "info"

end Severity

structure Notification where
  severity : Severity
  message : Text
deriving DecidableEq, Repr

namespace Notification

def error (message : Text) : Notification := ⟨.error, message⟩

def warning (message : Text) : Notification := ⟨.warning, message⟩

def info (message : Text) : Notification := ⟨.info, message⟩

def toText (notification : Notification) : Text :=
  notification.severity.name ++ ": " ++ notification.message

/-- The line a terminal shows: plain for information, else after its severity. -/
def terminalLine (notification : Notification) : Text :=
  match notification.severity with
  | .info => notification.message
  | .error | .warning => notification.toText

end Notification
end StubAssist
