import StubAssist.Insertion
import StubAssist.Notification
import StubAssist.Prompt.Session
import StubAssist.Settings
import StubAssist.ToolRun

/-!
# The quick fix

The fix is offered on a line that mentions a struct.  Carrying it out for an
interface composes the command, runs the generator and inserts what it printed;
each step may fail, and then the document stays as it was and the user is told
why, once.
-/

namespace StubAssist

/-!
# Actions
-/

structure CodeAction where
  line : Nat
  trigger : Trigger
deriving DecidableEq, Repr

namespace CodeAction

def title : Text := "Implement Interface Methods"

def kind : Text := "quickfix"

/-- The actions for the first line of a range: the fix, or none. -/
def offered {δ : Type} [Document δ] (document : δ) (range : Range) : List CodeAction :=
  match Document.lineAt document range.start.line with
  | none => []
  | some text => ((Trigger.detect text).map (CodeAction.mk range.start.line)).toList

def on {δ : Type} [Document δ] (document : δ) (line : Nat) : Except AssistError CodeAction :=
  if (Document.lineAt document line).isNone then .error (.lineOutOfRange line)
  else
    match offered document (.ofLines line line) with
    | [] => .error (.noStructAtLine line)
    | action :: _ => .ok action

def promptRefusal (action : CodeAction) : Option AssistError :=
  if action.trigger.hasStructName then none
  else some (.missingStructName action.trigger.lineText)

end CodeAction

/-!
# Attempts
-/

structure Attempt (α δ ω : Type) where
  result : Except AssistError α
  document : δ
  world : ω
  notifications : List Notification

namespace Attempt

variable {α β δ ω : Type}

def reported (attempt : Attempt α δ ω) : Attempt α δ ω :=
  match attempt.result with
  | .ok _ => attempt
  | .error error =>
      { attempt with notifications := attempt.notifications ++ [.error error.message] }

def map (f : α → β) (attempt : Attempt α δ ω) : Attempt β δ ω where
  result := attempt.result.map f
  document := attempt.document
  world := attempt.world
  notifications := attempt.notifications

def preceded (notifications : List Notification) (attempt : Attempt α δ ω) :
    Attempt α δ ω :=
  { attempt with notifications := notifications ++ attempt.notifications }

end Attempt

structure QuickFix where
  receiver : ReceiverSettings
  generator : Generator
deriving DecidableEq, Repr

namespace Generator

def ofSettings (settings : GeneratorSettings) : Generator where
  tool := settings.tool
  arguments := settings.arguments
  timeoutMillis := settings.timeoutMillis

end Generator

namespace QuickFix

variable {δ ω : Type}

def ofSettings (settings : Settings) : QuickFix where
  receiver := settings.receiver
  generator := .ofSettings settings.generator

/-- Opens the interface prompt for an action; a refusal is reported to the user. -/
def openPrompt (settings : PromptSettings) (index : SymbolIndex ω) (world : ω)
    (action : CodeAction) (document : δ) : Attempt (Prompt.Session ω) δ ω :=
  match action.promptRefusal with
  | some error => Attempt.reported ⟨.error error, document, world, []⟩
  | none => ⟨.ok (Prompt.Session.new settings index world), document, world, []⟩

/-- Composes, generates and inserts, silently. -/
def generateAndApply [Document δ] (fix : QuickFix) (runner : ToolRunner ω) (world : ω)
    (action : CodeAction) (document : δ) (candidate : Candidate) :
    Attempt Insertion δ ω :=
  match StubCommand.compose action.trigger candidate fix.receiver with
  | .error error => ⟨.error error, document, world, []⟩
  | .ok command =>
      let (report, world) := runner.report world
        (fix.generator.invocation command (Document.directory document))
      match report.stub with
      | .error error => ⟨.error error, document, world, []⟩
      | .ok stub =>
          let (result, document) := Insertion.apply document command.structName stub
          ⟨result, document, world, []⟩

/-- Implements the interface for the action; a failure is reported to the user. -/
def implement [Document δ] (fix : QuickFix) (runner : ToolRunner ω) (world : ω)
    (action : CodeAction) (document : δ) (candidate : Candidate) :
    Attempt Insertion δ ω :=
  (fix.generateAndApply runner world action document candidate).reported

/--
Implements what was picked in a prompt that has ended, after the warnings that it
gave; a prompt that was cancelled leaves nothing to do.
-/
def resolve [Document δ] (fix : QuickFix) (runner : ToolRunner ω) (world : ω)
    (action : CodeAction) (document : δ) (outcome : Prompt.Outcome) (warnings : List Text) :
    Attempt (Option Insertion) δ ω :=
  let attempt :=
    match outcome with
    | .selected candidate =>
        (fix.implement runner world action document candidate).map some
    | .cancelled => ⟨.ok none, document, world, []⟩
  attempt.preceded (warnings.map Notification.warning)

end QuickFix
end StubAssist
