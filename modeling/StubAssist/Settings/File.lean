import StubAssist.FileTree
import StubAssist.Settings.Decode
import StubAssist.Settings.Fault
import StubAssist.Toml.Document

/-!
# Settings files

Settings are read from a text under a name that errors show.  A file that need
not be there stands for the default settings.
-/

namespace StubAssist

open Toml (Span)

inductive SettingsError where
  | unreadable (path : Text) (error : FileError)
  | notToml (filename : Text)
  | misfit (filename : Text) (error : DecodeError)
  | faulty (filename : Text) (fault : Fault) (span : Option Span)

namespace SettingsError

def message : SettingsError → Text
  | unreadable path _ => "failed to read '" ++ path ++ "'"
  | notToml _ => "failed to parse quickimpl.toml"
  | misfit _ _ => "failed to parse quickimpl.toml"
  | faulty _ fault _ => fault.message

def code : SettingsError → Option Text
  | unreadable _ _ => none
  | notToml _ => some "quickimpl::parse_error".toList
  | misfit _ _ => some "quickimpl::parse_error".toList
  | faulty _ _ _ => some "quickimpl::validation_error".toList

def help : SettingsError → Option Text
  | unreadable _ _ => some "check the path passed to --config".toList
  | faulty _ fault _ => some fault.help
  | _ => none

end SettingsError

namespace Settings

/-- A misfit in a document that is not plain is not told apart from a text that is no document. -/
def parse (filename source : Text) : Except SettingsError Settings :=
  match Toml.parse? source with
  | none => .error (.notToml filename)
  | some entries =>
      match decode entries with
      | .error error =>
          if isPlainDocument entries then .error (.misfit filename error)
          else .error (.notToml filename)
      | .ok settings =>
          match settings.fault? with
          | some fault => .error (.faulty filename fault (fault.span? source))
          | none => .ok settings

def load (tree : FileTree) (path : Text) : Except SettingsError Settings :=
  match tree.readText path with
  | .error error => .error (.unreadable path error)
  | .ok source => parse path source

end Settings

structure SettingsFile where
  path : Text
  isLoaded : Bool
  settings : Settings
deriving DecidableEq, Repr

namespace SettingsFile

def load (tree : FileTree) (path : Text) : Except SettingsError SettingsFile :=
  (Settings.load tree path).map (SettingsFile.mk path true)

def loadOrDefault (tree : FileTree) (path : Text) : Except SettingsError SettingsFile :=
  if tree.exists? path then load tree path else .ok ⟨path, false, .default⟩

end SettingsFile
end StubAssist
