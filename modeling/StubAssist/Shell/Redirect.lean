import StubAssist.Shell.Machine

/-!
# Opening files for commands

Redirections of single descriptors, which answer whether they could be carried out.
-/

namespace StubAssist
namespace Shell
namespace Redirect

open Machine

def failure (isCreated : Bool) : FileError → Text
  | .notFound => if isCreated then "Directory nonexistent" else "No such file"
  | error => (error.description).1

def descriptorAt? (path : Text) : Option Nat :=
  if path == "/dev/stdin" then some 0
  else if path == "/dev/stdout" then some 1
  else if path == "/dev/stderr" then some 2
  else
    let directories : List Text := ["/dev/fd/", "/proc/self/fd/"]
    match directories.findSome? fun directory => Text.afterPrefix? directory path with
    | some digits => if digits.isEmpty then none else Text.digitsFrom? 0 digits
    | none => none

def complainOf (verb path : Text) (isCreated : Bool) (error : FileError) : Machine Bool := do
  complain ("cannot " ++ verb ++ " " ++ path ++ ": " ++ failure isCreated error)
  return false

def reopen (descriptor source : Nat) : Machine Bool := do
  match (← get).descriptors.lookup source with
  | some channel =>
      setDescriptor descriptor (some channel)
      return true
  | none => return false

def openToRead (descriptor : Nat) (path : Text) : Machine Bool := do
  match descriptorAt? path with
  | some source =>
      if ← reopen descriptor source then return true
      complainOf "open" path false .notFound
  | none =>
      match (← get).files.lookup path with
      | .ok (location, _) =>
          openFile descriptor ⟨location, 0, true, false, false⟩
          return true
      | .error error => complainOf "open" path false error

def opened (state : State) (path : Text) (keeps isForced : Bool) :
    Except FileError (Location × FileTree) := do
  let files := state.files
  let isPlain :=
    match files.lookup path with
    | .ok (_, .file _ _) => true
    | _ => false
  if isPlain && !keeps && !isForced && state.isIn .keepsFiles then throw .alreadyExists
  let files ← if keeps then files.append path [] else files.write path []
  return (← files.resolve path, files)

/-- Opens a file to be written from its start, at its end, or where it is read too. -/
def openToWrite (descriptor : Nat) (path : Text) (file : Location → OpenFile)
    (isForced : Bool) : Machine Bool := do
  match descriptorAt? path with
  | some source =>
      if ← reopen descriptor source then return true
      complainOf "create" path true .notFound
  | none =>
      let keeps := (file []).appends || (file []).canRead
      match opened (← get) path keeps isForced with
      | .ok (location, files) =>
          modify fun state => { state with files := files }
          openFile descriptor (file location)
          return true
      | .error error => complainOf "create" path true error

def isDescriptorName (t : Text) : Bool :=
  match t with
  | [c] => c.isDigit || c == '-'
  | _ => false

/-- Makes a descriptor another name for the one that a word names.  One that has been put
aside is closed by then, so that the complaints of a shell that redirects its own get lost. -/
def duplicate (descriptor : Nat) (source : Text) (isPutAside : Bool) : Machine Bool := do
  if source == "-" then
    setDescriptor descriptor none
    return true
  match Text.digitsFrom? 0 source with
  | some n => if ← reopen descriptor n then return true
  | none => pure ()
  if isPutAside then setDescriptor descriptor none
  complain (source ++ ": Bad file descriptor")
  return false

end Redirect
end Shell
end StubAssist
