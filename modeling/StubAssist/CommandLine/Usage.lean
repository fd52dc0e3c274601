import StubAssist.Receiver

/-!
# Usage

The options and operands that the commands take, the forms of their values, and
the ways in which a command line can be wrong.
-/

namespace StubAssist
namespace CommandLine

inductive UsageError where
  /-- Help was asked for and takes the place of any command. -/
  | displayHelp
  | displayVersion
  /-- Nothing was given at all, which is answered by the help text. -/
  | displayHelpForWantOfCommand
  | missingCommand
  | unknownCommand
  | unknownArgument
  | missingArgument
  | argumentConflict
  | missingValue
  | unwantedValue
  | forbiddenValue
  | malformedValue
deriving DecidableEq, Repr

namespace UsageError

def exitCode : UsageError → Nat
  | displayHelp => 0
  | displayVersion => 0
  | _ => 2

def commandList : Text :=
  "commands: actions, search, compose, implement, completions, help"

def message : UsageError → Text
  | displayHelp => commandList
  | displayVersion => "version 0.1.0"
  | displayHelpForWantOfCommand => commandList
  | missingCommand => "error: a command is missing"
  | unknownCommand => "error: there is no such command"
  | unknownArgument => "error: unexpected argument"
  | missingArgument => "error: a required argument is missing"
  | argumentConflict => "error: an argument cannot be given twice"
  | missingValue => "error: an option is missing its value"
  | unwantedValue => "error: a flag takes no value"
  | forbiddenValue => "error: a value is not one of those allowed"
  | malformedValue => "error: a value is malformed"

end UsageError

/-!
# Values
-/

inductive ValueForm where
  | anyText
  | path
  | word
  | receiverType
  | shell
deriving DecidableEq, Repr

def shellNames : List Text :=
  ["bash", "elvish", "fish", "powershell", "zsh"]

namespace ValueForm

def flaw? (form : ValueForm) (value : Text) : Option UsageError :=
  match form with
  | anyText => none
  | path => if value.isEmpty then some .missingValue else none
  | word => if (Text.toWord? value).isNone then some .malformedValue else none
  | receiverType =>
      match ReceiverType.parse value with
      | .ok _ => none
      | .error _ => some .malformedValue
  | shell => if shellNames.contains value then none else some .forbiddenValue

end ValueForm

/-!
# Options
-/

inductive Role where
  | flag
  | value (form : ValueForm)
  | help
  | version
deriving DecidableEq, Repr

structure OptionRule where
  name : Text
  letter : Option Char
  role : Role
deriving DecidableEq, Repr

namespace OptionRule

def flag (name : Text) (letter : Option Char) : OptionRule := ⟨name, letter, .flag⟩

def value (name : Text) (letter : Option Char) (form : ValueForm) : OptionRule :=
  ⟨name, letter, .value form⟩

end OptionRule

structure Level where
  options : List OptionRule
  operand : Option ValueForm
  commands : List Text
deriving DecidableEq, Repr

namespace Level

def option? (level : Level) (name : Text) : Option OptionRule :=
  level.options.find? (·.name == name)

def letter? (level : Level) (letter : Char) : Option OptionRule :=
  level.options.find? (·.letter == some letter)

end Level

def commonOptions : List OptionRule :=
  [.flag "verbose" 'v', ⟨"help", 'h', .help⟩]

def settingsOption : OptionRule := .value "config" 'c' .path

def sourceOptions : List OptionRule :=
  [.value "file" 'f' .path, .value "line" 'l' .word]

def overrideOptions : List OptionRule :=
  [.value "receiver-type" none .receiverType, .value "receiver-name-length" none .word,
    .value "receiver-name" none .anyText]

def helpWord : Text := "help"

def commandNames : List Text :=
  ["actions", "search", "compose", "implement", "completions"]

def topLevel : Level where
  options := ⟨"version", 'V', .version⟩ :: commonOptions
  operand := none
  commands := helpWord :: commandNames

def levelOf? (command : Text) : Option Level :=
  if command == "actions" then
    some ⟨commonOptions ++ sourceOptions ++ [settingsOption], none, []⟩
  else if command == "search" then
    some ⟨commonOptions ++ [.value "workspace" 'w' .path, .flag "json" none, settingsOption],
      some .anyText, []⟩
  else if command == "compose" then
    some ⟨commonOptions ++
      [.value "struct" 's' .anyText, .value "interface" 'i' .anyText, settingsOption] ++
      overrideOptions, none, []⟩
  else if command == "implement" then
    some ⟨commonOptions ++ sourceOptions ++
      [.value "interface" 'i' .anyText, .flag "dry-run" none, settingsOption] ++
      overrideOptions, none, []⟩
  else if command == "completions" then some ⟨commonOptions, some .shell, []⟩
  else none

end CommandLine
end StubAssist
