import StubAssist.CommandLine.Parse
import StubAssist.Report
import StubAssist.Settings.File
import StubAssist.SymbolIndex
import StubAssist.Text.Quoted

/-!
# Running commands

A command runs on a tree of files, with tools that may change it.  Its outcome is
what it prints to the two streams, the exit code, and the files as it leaves them.

There is no terminal here.  To implement an interface that is not given, the user would
be asked for keywords and shown what they find until one is picked; that dialogue is left
out, and such a run ends as it does wherever there is no terminal.  What a prompt does
with the answers is told by its sessions, and what comes of the pick by the quick fix.
-/

namespace StubAssist

/-- Counts a line from zero that the user counts from one. -/
def zeroBased (line : Nat) : Except Text Nat :=
  if line = 0 then .error "line numbers start at 1" else .ok (line - 1)

namespace CommandLine

structure Outcome where
  exitCode : Nat
  output : Text
  complaints : Text
  files : FileTree

namespace Outcome

def line (t : Text) : Text :=
  t ++ ['\n']

def failed (files : FileTree) (message : Text) : Outcome :=
  ⟨1, [], line ("Error: " ++ message), files⟩

def stopped (files : FileTree) (notifications : List Notification) : Outcome :=
  ⟨1, [], notifications.flatMap fun n => line n.terminalLine, files⟩

def ofUsageError (files : FileTree) (error : UsageError) : Outcome :=
  ⟨error.exitCode, [], line error.message, files⟩

def ofSettingsError (files : FileTree) (error : SettingsError) : Outcome :=
  let message :=
    match error.code with
    | some code => code ++ ": " ++ error.message
    | none => error.message
  ⟨1, [], line message, files⟩

/-- What a report shows apart from its warnings, or the warnings alone. -/
def reportLines (warnings : Bool) (report : List ReportLine) : Text :=
  (report.filter (·.isWarning == warnings)).flatMap fun l => line l.terminalLine

def reported (files : FileTree) (report : List ReportLine) : Outcome :=
  ⟨0, reportLines false report, reportLines true report, files⟩

def printed (files : FileTree) (output : Text) (report : List ReportLine) : Outcome :=
  ⟨0, output, report.flatMap fun l => line l.terminalLine, files⟩

end Outcome

/-!
# Actions and search
-/

def runActions (files : FileTree) (file : Text) (line : Nat) : Outcome :=
  match zeroBased line with
  | .error message => .failed files message
  | .ok index =>
      match SourceBuffer.open? files file with
      | .error message => .failed files message
      | .ok buffer =>
          .reported files
            (Report.actions file line (CodeAction.offered buffer (.ofLines index index)))

namespace Candidate

open Text (quoteForJson)

def jsonObject (candidate : Candidate) : Text :=
  let package : Text :=
    match candidate.package with
    | some package => quoteForJson package
    | none => "null"
  "  \x7b\n    \"name\": " ++ quoteForJson candidate.name ++ ",\n    \"container_path\": " ++
    package ++ "\n  \x7d"

def jsonList (candidates : List Candidate) : Text :=
  if candidates.isEmpty then "[]"
  else "[\n" ++ Text.joinWith ",\n" (candidates.map jsonObject) ++ "\n]"

end Candidate

def runSearch (tools : ToolRunner FileTree) (files : FileTree) (settings : IndexSettings)
    (keyword workspace : Text) (asJson : Bool) : Outcome :=
  let index : WorkspaceIndex := ⟨settings.tool, workspace, settings.timeoutMillis⟩
  let (reply, files) := index.ask tools files keyword
  match reply.interfaces with
  | .error error =>
      .failed files ("Failed to search for '" ++ keyword ++ "': " ++ error.message)
  | .ok candidates =>
      if asJson then ⟨0, Outcome.line (Candidate.jsonList candidates), [], files⟩
      else .reported files (Report.search keyword candidates)

/-!
# Compose and implement
-/

def triggerFor? (structName : Text) : Option Trigger :=
  (Trigger.detect ("type " ++ structName ++ " struct")).filter (·.structName == structName)

def runCompose (files : FileTree) (settings : Settings) (structName interface : Text) : Outcome :=
  match triggerFor? structName with
  | none => .failed files ("'" ++ structName ++ "' is not a struct name")
  | some trigger =>
      match StubCommand.compose trigger (Candidate.ofQualified interface) settings.receiver with
      | .error error => .failed files error.message
      | .ok command =>
          let generator := Generator.ofSettings settings.generator
          ⟨0, Outcome.line (generator.commandLine command), [], files⟩

def finishImplement (files : FileTree) (file : Text) (action : CodeAction) (buffer : SourceBuffer)
    (insertion : Insertion) (isDryRun : Bool) : Outcome :=
  let report := Report.implement file action.trigger.structName insertion isDryRun
  if isDryRun then .printed files buffer.content report
  else
    match buffer.saveDocument files with
    | (.error error, files) => .failed files ("Failed to write " ++ file ++ ": " ++ error.message)
    | (.ok (), files) => .reported files report

/-- How the dialogue ends without a terminal, which is the only end that it has here. -/
def noTerminal : Text :=
  "Failed to read interface name: IO error: not a terminal: not a terminal"

def runImplement (tools : ToolRunner FileTree) (files : FileTree) (settings : Settings)
    (file : Text) (line : Nat) (interface : Option Text) (isDryRun : Bool) : Outcome :=
  match zeroBased line with
  | .error message => .failed files message
  | .ok index =>
      match SourceBuffer.open? files file with
      | .error message => .failed files message
      | .ok buffer =>
          match CodeAction.on buffer index with
          | .error error => .failed files error.message
          | .ok action =>
              match interface with
              | none =>
                  match action.promptRefusal with
                  | some error => .stopped files [.error error.message]
                  | none => .failed files noTerminal
              | some name =>
                  let attempt := (QuickFix.ofSettings settings).implement tools files action
                    buffer (Candidate.ofQualified name)
                  match attempt.result with
                  | .error _ => .stopped attempt.world attempt.notifications
                  | .ok insertion =>
                      finishImplement attempt.world file action attempt.document insertion isDryRun

/-!
# Whole command lines
-/

def overridden (overrides : ReceiverOverrides) (settings : Settings) : Settings :=
  { settings with receiver := overrides.apply settings.receiver }

/-- Every command but completions reads the settings first. -/
def run (tools : ToolRunner FileTree) (files : FileTree) (commandLine : CommandLine) : Outcome :=
  let withSettings := fun (go : Settings → Outcome) =>
    match SettingsFile.loadOrDefault files commandLine.settingsPath with
    | .error error => .ofSettingsError files error
    | .ok file => go file.settings
  match commandLine.command with
  | .actions file line => withSettings fun _ => runActions files file line
  | .search keyword workspace asJson =>
      withSettings fun settings => runSearch tools files settings.index keyword workspace asJson
  | .compose structName interface overrides =>
      withSettings fun settings =>
        runCompose files (overridden overrides settings) structName interface
  | .implement file line interface isDryRun overrides =>
      withSettings fun settings =>
        runImplement tools files (overridden overrides settings) file line interface isDryRun
  | .completions _ => ⟨0, [], [], files⟩

def runArguments (tools : ToolRunner FileTree) (files : FileTree) (arguments : List Text) :
    Outcome :=
  match parse arguments with
  | .error error => .ofUsageError files error
  | .ok commandLine => run tools files commandLine

end CommandLine
end StubAssist
