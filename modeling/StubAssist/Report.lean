import StubAssist.Candidate
import StubAssist.Insertion
import StubAssist.QuickFix

/-!
# Reports

What a command has to tell is a list of report lines.  A report says what is
shown; how a line looks in a terminal is decided in one place.
-/

namespace StubAssist

inductive ReportLine where
  | section (name : Text)
  | keyValue (key value : Text)
  | numberedItem (number : Nat) (text : Text)
  | listItem (text : Text)
  | addedItem (text : Text)
  | warning (message : Text)
  | preformatted (text : Text)
deriving DecidableEq, Repr

namespace ReportLine

def isWarning : ReportLine → Bool
  | warning _ => true
  | _ => false

def terminalLine : ReportLine → Text
  | «section» name => name ++ ":"
  | keyValue key value => key ++ ": " ++ value
  | numberedItem number text => "  " ++ Text.ofNat number ++ ". " ++ text
  | listItem text => "  - " ++ text
  | addedItem text => "  + " ++ text
  | warning message => "warning: " ++ message
  | preformatted text => text

end ReportLine

namespace Report

/-!
# Offered actions
-/

def actionLines (action : CodeAction) : List ReportLine :=
  .listItem (CodeAction.title ++ " [" ++ CodeAction.kind ++ "]") ::
    if action.trigger.hasStructName then []
    else [.warning "no struct name on this line, the action will fail"]

def actions (file : Text) (line : Nat) (offered : List CodeAction) : List ReportLine :=
  let location : Text := file ++ ":" ++ Text.ofNat line
  if offered.isEmpty then [.preformatted ("No code actions for " ++ location)]
  else .section ("Code actions for " ++ location) :: offered.flatMap actionLines

/-!
# Search results
-/

def numbered (first : Nat) : List Candidate → List ReportLine
  | [] => []
  | candidate :: rest =>
      .numberedItem first candidate.qualifiedName :: numbered (first + 1) rest

def search (keyword : Text) (candidates : List Candidate) : List ReportLine :=
  if candidates.isEmpty then [.preformatted ("No interfaces match '" ++ keyword ++ "'")]
  else .section ("Interfaces matching '" ++ keyword ++ "'") :: numbered 1 candidates

/-!
# Inserted stubs
-/

/-- A line that opens a function, without its brace. -/
def signature? (line : Text) : Option Text :=
  if ("func " : Text).isPrefixOf line then
    some (Text.trimEnd (line.reverse.dropWhile (· == '{')).reverse)
  else none

def methods (insertion : Insertion) : List Text :=
  (Text.lines insertion.text).filterMap signature?

def implement (file structName : Text) (insertion : Insertion) (dryRun : Bool) :
    List ReportLine :=
  let line := Text.ofNat (insertion.line + 1)
  let conclusion : Text :=
    if dryRun then
      "Dry run: " ++ file ++ " was not written (stubs go at line " ++ line ++ ")"
    else "✓ Inserted stubs at " ++ file ++ ":" ++ line
  .keyValue "struct" structName :: .section "Methods" ::
    (methods insertion).map .addedItem ++ [.preformatted conclusion]

end Report
end StubAssist
