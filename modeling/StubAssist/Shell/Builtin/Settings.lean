import StubAssist.Shell.Rights
import StubAssist.Shell.Builtin.Variables

/-!
# Settings of a shell

Built-in commands for the modes and the parameters, for the current directory and for
the rights of new files.
-/

namespace StubAssist
namespace Shell
namespace Builtin

open Machine

/-- Switches modes and sets the parameters; without arguments, shows all variables. -/
def set : Action := fun arguments => do
  let state ← get
  if arguments.isEmpty then showVariables [] (state.bindings.values.map (·.1))
  else
    match Mode.request false state.modes arguments with
    | .error reason => fail reason
    | .ok request =>
        if request.modes.contains .controlsJobs then
          complain "can't access tty; job control turned off"
        print request.shown
        modify fun state => { state with modes := request.modes.filter (· != .controlsJobs) }
        if request.isClosed || !request.rest.isEmpty then
          modify fun state => { state with arguments := request.rest, place := .start }
        setStatus 0

/-!
# The current directory
-/

def namesAlong : (trail : List Text) → List Text → List Text
  | trail, [] => trail.reverse
  | trail, name :: names =>
      if name.isEmpty || name == "." then namesAlong trail names
      else if name == ".." then namesAlong (trail.drop 1) names
      else namesAlong (name :: trail) names

/-- The path of a directory by names alone; exactly two slashes in front are kept. -/
def pathAlong (here path : Text) : Text :=
  let isFull := path.head? == some '/'
  let whole := if isFull then path else here ++ '/' :: path
  let isDouble := (if isFull then path else here).take 2 == "//" &&
    !(isFull && (path.drop 2).head? == some '/')
  let names := namesAlong [] (Text.splitBy (· == '/') whole)
  (if isDouble then "//".toList else ['/']) ++ Text.joinWith ['/'] names

/-- Goes to a directory, by the names of its path alone unless the files are to be followed. -/
def enter? (followsFiles : Bool) (path : Text) : Machine Bool := do
  let state ← get
  let plain := pathAlong state.directory path
  match state.files.enter (if followsFiles then path else plain) with
  | .error _ => return false
  | .ok files =>
      let directory := if followsFiles then FileTree.pathOf files.workingDirectory else plain
      MonadStateOf.set { state with files := files, directory := directory }
      setVariable "OLDPWD" state.directory
      setVariable "PWD" directory
      modify fun state =>
        { state with bindings := (state.bindings.markExported "OLDPWD").markExported "PWD" }
      return true

/-- Whether a path starts where it says, and not in one of the directories for that. -/
def isPlaced (path : Text) : Bool :=
  let rest := if (path.take 2) == ".." then path.drop 2 else path.drop 1
  path.head? == some '/' ||
    (path.head? == some '.' && (rest.isEmpty || rest.head? == some '/'))

/-- The directory to go to by a path that is looked for, and whether that is worth telling. -/
def lookFor (path : Text) : Machine (Text × Bool) := do
  let state ← get
  match if isPlaced path then none else state.bindings.get? "CDPATH" with
  | none => return (path, false)
  | some search =>
      let inside := fun (directory : Text) =>
        if directory.isEmpty then path else directory ++ '/' :: path
      let directories := Text.splitBy (· == ':') search
      match directories.find? fun directory => state.files.isDirectory (inside directory) with
      | some directory => return (inside directory, !directory.isEmpty)
      | none => return (path, false)

def cd : Action := fun arguments => do
  match Options.read "LP" arguments with
  | .error reason => fail reason
  | .ok (options, operands) =>
      let bindings := (← get).bindings
      let goesBack := operands.head? == some ['-']
      let path :=
        if goesBack then (bindings.get? "OLDPWD").getD []
        else operands.head?.getD ((bindings.get? "HOME").getD [])
      let path : Text := if path.isEmpty then "." else path
      let (target, isTold) ← lookFor path
      if !(← enter? ((options.getLast?.map (·.1)) == some 'P') target) then
        fail ("can't cd to " ++ path)
      if goesBack || isTold then print ((← get).directory ++ ['\n'])
      setStatus 0

def pwd : Action := fun arguments => do
  match Options.read "LP" arguments with
  | .error reason => fail reason
  | .ok (options, _) =>
      let state ← get
      let isPhysical := (options.getLast?.map (·.1)) == some 'P'
      print ((if isPhysical then FileTree.pathOf state.files.workingDirectory
        else state.directory) ++ ['\n'])
      setStatus 0

/-!
# Rights
-/

def rights (mask : Nat) : Text :=
  [(4, 'r'), (2, 'w'), (1, 'x')].filterMap fun (bit, letter) =>
    if mask / bit % 2 == 0 then some letter else none

/-- The changes of rights that a mask is described by, which have none but the usual ones. -/
def changesOf? (t : Text) : Option (List Rights.Change) :=
  let isMeaningful := fun (clause : Text) => clause.any fun c => (Rights.class? c).isNone
  let clauses := (Text.splitBy (· == ',') t).filter isMeaningful
  if t.any fun c => c == 't' || c.isDigit then none
  else if clauses.isEmpty then some []
  else Rights.parse? (Text.joinWith [','] clauses)

def umask : Action := fun arguments => do
  match Options.read "S" arguments with
  | .error reason => fail reason
  | .ok (options, []) =>
      let mask := (← get).files.mask
      print (if options.isEmpty then Rights.toOctal mask ++ ['\n']
        else "u=" ++ rights (mask / 64) ++ ",g=" ++ rights (mask / 8) ++ ",o=" ++ rights mask ++
          ['\n'])
      setStatus 0
  | .ok (_, t :: _) =>
      let before := (← get).files.mask
      let mask ←
        if (t.head?.map Char.isDigit).getD false then
          if !t.all Rights.isOctalDigit then fail ("Illegal number: " ++ t)
          else pure (Rights.octal t % 512)
        else
          match changesOf? t with
          | none => fail ("Illegal mode: " ++ t)
          | some changes => pure (0o777 - Rights.apply false 0 changes (0o777 - before) % 512)
      modify fun state => { state with files := { state.files with mask := mask } }
      setStatus 0

/-- What processes may use, by letters, unless something else is set. -/
def usualLimits : List (Char × Text) :=
  [('s', "8192"), ('c', "0"), ('l', "8192"), ('n', "1024"), ('r', "0")]

def ulimit : Action := fun arguments => do
  match Options.read "HSatfdscmlpnvwr" arguments with
  | .error reason => fail reason
  | .ok (options, operands) =>
      let letters := (options.map (·.1)).filter fun c => c != 'H' && c != 'S' && c != 'a'
      let letter := letters.getLast?.getD 'f'
      match operands with
      | [] =>
          let limits := (← get).limits ++ usualLimits
          print ((limits.lookup letter).getD "unlimited" ++ ['\n'])
      | [value] =>
          if value != "unlimited" && !value.all Char.isDigit then fail "bad number"
          modify fun state =>
            { state with limits := (letter, value) :: state.limits.filter (·.1 != letter) }
      | _ => fail "too many arguments"
      setStatus 0

def times : Action := fun _ => do
  let line : Text := "0m0.000000s 0m0.000000s\n"
  print (line ++ line)
  setStatus 0

end Builtin
end Shell
end StubAssist
