import StubAssist.Shell.Builtin
import StubAssist.Shell.Program.Table

/-!
# Finding commands

What a command's name stands for: a word of the language, a function, a built-in
command, a program of the system or a file.
-/

namespace StubAssist
namespace Shell
namespace Lookup

open Machine

def shells : List Text := ["sh", "dash"]

inductive Executable where
  | program (name : Text)
  /-- A script, for which another file is run with the script among its arguments. -/
  | scriptFor (interpreter : Text) (arguments : List Text)
  | script
deriving DecidableEq, Repr

/-- The interpreter that the first line of a script names, and one argument for it. -/
def interpreter? (script : Text) : Option (Text × List Text) := do
  let rest ← Text.afterPrefix? "#!".toList script
  let line := (rest.takeWhile (· != '\n')).dropWhile Reader.isBlank
  let name := line.takeWhile (!Reader.isBlank ·)
  let argument := (line.drop name.length).dropWhile Reader.isBlank
  let argument := (argument.reverse.dropWhile Reader.isBlank).reverse
  if name.isEmpty then none else some (name, if argument.isEmpty then [] else [argument])

def Executable.ofBytes (bytes : Utf8.Bytes) : Executable :=
  match FileTree.programIn? bytes with
  | some name => .program name
  | none =>
      match interpreter? (Octets.ofBytes bytes) with
      | some (interpreter, arguments) => .scriptFor interpreter arguments
      | none => .script

def interpreterLimit : Nat := 5

def executable (files : FileTree) : (fuel : Nat) → (path : Text) → Except FileError Executable
  | 0, _ => .error .tooManyLinks
  | fuel + 1, path => do
      let (_, node) ← files.lookup path
      if !node.isExecutable then throw .permissionDenied
      let found := Executable.ofBytes (← FileTree.bytesOf node)
      match found with
      | .scriptFor interpreter _ =>
          let _ ← executable files fuel interpreter
          return found
      | _ => return found

def check (files : FileTree) (path : Text) : Except FileError Unit :=
  match executable files interpreterLimit path with
  | .ok _ => .ok ()
  | .error .notADirectory => .error .notFound
  | .error error => .error error

/-- The first path in some directories that can be run; a refusal counts only if there is none. -/
def search (files : FileTree) (name : Text) : List Text → Except FileError Text
  | [] => .error .notFound
  | directory :: rest =>
      let path := if directory.isEmpty then name else directory ++ '/' :: name
      match check files path, search files name rest with
      | .ok (), _ => .ok path
      | .error .notFound, found => found
      | .error _, .ok path => .ok path
      | .error error, .error _ => .error error

/-- The path of a program; a name without slashes is looked for where the variable says. -/
def locate (state : State) (usesStandardPath : Bool) (name : Text) : Except FileError Text := do
  if List.contains name '/' then
    check state.files name
    return name
  else
    let path := if usesStandardPath then State.searchPath
      else (state.bindings.get? "PATH").getD []
    search state.files name (Text.splitBy (· == ':') path)

/-- The path of a program that another one looks for, where a variable of its own says. -/
def locateFor (files : FileTree) (environment : Variables) (name : Text) :
    Except FileError Text := do
  if List.contains name '/' then
    check files name
    return name
  else if name.isEmpty then throw .notFound
  else
    let path := (environment.lookup "PATH".toList).getD "/bin:/usr/bin"
    search files name (Text.splitBy (· == ':') path)

/-!
# Calls
-/

structure Call where
  name : Text
  arguments : List Text
  isPlain : Bool
  usesStandardPath : Bool

/-- What follows `command` and its options, if it is there to call another command. -/
def operands (usesStandardPath : Bool) : List Text → Option (Bool × List Text)
  | [] => some (usesStandardPath, [])
  | ['-', '-'] :: rest => some (usesStandardPath, rest)
  | ('-' :: c :: letters) :: rest =>
      if (c :: letters).all (· == 'p') then operands true rest else none
  | fields => some (usesStandardPath, fields)

namespace Call

def ofFields : (fuel : Nat) → (isPlain usesStandardPath : Bool) → List Text → Call
  | fuel + 1, isPlain, usesStandardPath, name :: arguments =>
      let call : Call := ⟨name, arguments, isPlain, usesStandardPath⟩
      if name != "command" then call
      else
        match operands false arguments with
        | some (usesStandardPath, name :: arguments) =>
            ofFields fuel true usesStandardPath (name :: arguments)
        | _ => call
  | _, isPlain, usesStandardPath, fields =>
      ⟨fields.headD [], fields.drop 1, isPlain, usesStandardPath⟩

def of (fields : List Text) : Call :=
  ofFields (fields.length + 1) false false fields

def isOpen (fields : List Text) : Bool :=
  let call := of fields
  let isBare := (operands false call.arguments).map (·.2) == some []
  fields.isEmpty || (call.name == "command" && isBare)

def builtin? (state : State) (call : Call) : Option Builtin :=
  if !call.isPlain && (state.functions.lookup call.name).isSome then none
  else Builtin.find? call.name

def isSpecial (state : State) (call : Call) : Bool :=
  !call.isPlain && specialCommands.contains call.name && (call.builtin? state).isSome

end Call

/-!
# Telling what is found
-/

def remember (name : Text) : Machine Unit :=
  modify fun state =>
    if List.contains name '/' || state.located.contains name then state
    else { state with located := state.located ++ [name] }

def describe (inWords usesStandardPath : Bool) (name : Text) : Machine Unit := do
  let state ← get
  let say := fun (kind : Text) => do
    print (name ++ (if inWords then kind else []) ++ ['\n'])
    setStatus 0
  let isTracked := !usesStandardPath && state.located.contains name
  let alias? := state.aliases.lookup name
  if Reader.reservedWords.contains name then say " is a shell keyword"
  else if alias?.isSome then
    let value := alias?.getD []
    if inWords then say (" is an alias for " ++ value)
    else
      print ("alias " ++ Builtin.shownAlias name value)
      setStatus 0
  else if (state.functions.lookup name).isSome then say " is a shell function"
  else
    match Builtin.find? name with
    | some _ =>
        say (if specialCommands.contains name then " is a special shell builtin"
          else " is a shell builtin")
    | none =>
        let found :=
          if List.contains name '/' then
            if state.files.exists? name then some name else none
          else (locate state usesStandardPath name).toOption
        match found with
        | some path =>
            let kind : Text := if isTracked then " is a tracked alias for " else " is "
            print (if inWords then name ++ kind ++ path ++ ['\n'] else path ++ ['\n'])
            setStatus 0
        | none =>
            if inWords then print (name ++ ": not found\n")
            setStatus 127

/-- Says what names stand for; the status is that of the last one not found. -/
def describeAll : Action := fun names => do
  setStatus 0
  for name in names do
    let before := (← get).status
    describe true false name
    if (← get).status == 0 then setStatus before

def verify : Action := fun arguments => do
  match Options.read "pvV" arguments with
  | .error reason => fail reason
  | .ok (options, operands) =>
      let has := fun (c : Char) => options.any (·.1 == c)
      match operands with
      | name :: _ => if has 'v' || has 'V' then describe (has 'V') (has 'p') name else setStatus 0
      | [] => setStatus 0

def hash : Action := fun arguments => do
  match Options.read "r" arguments with
  | .error reason => fail reason
  | .ok (_ :: _, _) =>
      modify fun state => { state with located := [] }
      setStatus 0
  | .ok ([], names) =>
      let state ← get
      setStatus 0
      if names.isEmpty then
        for name in state.located do print ((locate state false name).toOption.getD name ++ ['\n'])
      for name in names do
        if (Builtin.find? name).isNone then
          match locate state false name with
          | .ok _ => remember name
          | .error _ =>
              complain (name ++ ": not found")
              setStatus 1

end Lookup
end Shell
end StubAssist
