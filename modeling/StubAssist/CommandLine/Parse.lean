import StubAssist.CommandLine.Arguments

/-!
# Command lines

A command line read as a whole: the command with all that it needs.
-/

namespace StubAssist
namespace CommandLine

inductive Command where
  | actions (file : Text) (line : Nat)
  | search (keyword workspace : Text) (asJson : Bool)
  | compose (structName interface : Text) (overrides : ReceiverOverrides)
  /-- Implements an interface; without one, it is asked for. -/
  | implement (file : Text) (line : Nat) (interface : Option Text) (isDryRun : Bool)
      (overrides : ReceiverOverrides)
  | completions (shell : Text)
deriving DecidableEq, Repr

def defaultSettingsPath : Text := "quickimpl.toml"

namespace Given

def path? (given : Given) (name : Text) : Option Text :=
  given.value? name

def word? (given : Given) (name : Text) : Option Nat :=
  (given.value? name).bind Text.toWord?

def settingsPath (given : Given) : Text :=
  (given.path? "config").getD defaultSettingsPath

def overrides (given : Given) : ReceiverOverrides where
  receiverType := (given.value? "receiver-type").bind fun t => (ReceiverType.parse t).toOption
  nameLength := given.word? "receiver-name-length"
  name := given.value? "receiver-name"

def hasConflict (given : Given) : Bool :=
  given.has "receiver-name" && given.has "receiver-name-length"

end Given

def command? (name : Text) (given : Given) : Option Command :=
  if name == "actions" then do
    return .actions (← given.path? "file") (← given.word? "line")
  else if name == "search" then do
    return .search (← given.operand) ((given.path? "workspace").getD ".") (given.has "json")
  else if name == "compose" then do
    return .compose (← given.value? "struct") (← given.value? "interface") given.overrides
  else if name == "implement" then do
    return .implement (← given.path? "file") (← given.word? "line") (given.value? "interface")
      (given.has "dry-run") given.overrides
  else if name == "completions" then do
    return .completions (← given.operand)
  else none

def helpOn : List Text → UsageError
  | [] => .displayHelp
  | [word] => if topLevel.commands.contains word then .displayHelp else .unknownCommand
  | _ => .unknownCommand

end CommandLine

structure CommandLine where
  isVerbose : Bool
  settingsPath : Text
  command : CommandLine.Command
deriving DecidableEq, Repr

namespace CommandLine

def parse (arguments : List Text) : Except UsageError CommandLine := do
  let top ← read topLevel arguments
  match top.command with
  | none => throw (if top.given.isEmpty then .displayHelpForWantOfCommand else .missingCommand)
  | some (name, rest) =>
      if name == helpWord then throw (helpOn rest)
      match levelOf? name with
      | none => throw .unknownCommand
      | some level =>
          let { given, .. } ← read level rest
          if given.hasConflict then throw .argumentConflict
          match command? name given with
          | none => throw .missingArgument
          | some command =>
              return ⟨top.given.has "verbose" || given.has "verbose", given.settingsPath, command⟩

end CommandLine
end StubAssist
