import StubAssist.Shell.Field
import StubAssist.Shell.Home
import StubAssist.Shell.Lookup
import StubAssist.Shell.Loss
import StubAssist.Shell.Process
import StubAssist.Shell.Redirect
import StubAssist.Text.Lines

/-!
# Running scripts

The meaning of words and commands.  `fuel` bounds how long a script can run; when
it is used up, the time of the script is taken to be over.
-/

namespace StubAssist
namespace Shell

open Machine
open Utf8 (Bytes)

/-!
# Programs
-/

def refuse (isExec : Bool) (name : Text) (error : FileError) : Machine Unit := do
  let reason : Text := if error == .notFound then "not found" else (error.description).1
  complain (name ++ ": " ++ reason)
  let isSearched := !isExec && !List.contains name '/'
  setStatus (if error == .notFound || isSearched then 127 else 126)

def checkOutput (name : Text) : Machine Unit := do
  let state ← get
  match state.lostOutput with
  | some error =>
      set { state with lostOutput := none }
      let loss := Loss.ofProgram name error
      for complaint in loss.complaints do write 2 (Octets.bytes (complaint ++ ['\n']))
      match loss.status with
      | some status => setStatus status
      | none => return ()
  | none => return ()

def showCommand (channel : Option Channel) (start : Text) (assigned : List Text)
    (words : List Text) : Machine Unit := do
  let bindings := (← get).bindings
  let assignments := assigned.map fun name => name ++ '=' :: (bindings.get? name).getD []
  writeTo channel (Octets.bytes (start ++ Text.joinWith [' '] (assignments ++ words) ++ ['\n']))

/-!
# Words and commands
-/

/-- What stands for a missing parameter is cut like values, unless it is quoted. -/
def asValue (isQuoted : Bool) (pieces : List Piece) : List Piece :=
  let values := pieces.map fun
    | .plain t => if isQuoted then .whole t else .divisible t
    | piece => piece
  if isQuoted && pieces.isEmpty then [.whole []] else values

def linkOf (bindings : Bindings) (name : Text) (isQuoted splits : Bool) : Text :=
  let isApart := splits && if isQuoted then name == "@" else (bindings.get? "IFS").isSome
  if isApart then ['\x00'] else joint bindings

/-- The value of a parameter, in which null characters may stand between arguments. -/
def linkedValue? (name : Text) (isQuoted splits : Bool) : Machine (Option Text) := do
  if name == "@" || name == "*" then
    let state ← get
    return some (Text.joinWith (linkOf state.bindings name isQuoted splits) state.arguments)
  else value? name

def piecesOf (bindings : Bindings) (isQuoted : Bool) (t : Text) : List Piece :=
  let parts := Text.splitBy (· == '\x00') t
  (parts.map (Piece.ofValue isQuoted)).intersperse (.boundary (joint bindings))

def demandedLinkedValue (name : Text) (isQuoted splits : Bool) : Machine Text := do
  match ← linkedValue? name isQuoted splits with
  | some t => return t
  | none => return (← demandedValue? name).getD []

def depthLimit : Nat := 1000

def leaveLoops (levels : Nat) : Machine Unit := do
  if 1 < levels then throw (.broken (levels - 1))

def atHome (word : Word) : Machine Word := do
  return Home.inWord ((← get).bindings.get? "HOME") word

def valueAtHome (word : Word) : Machine Word := do
  return Home.inValue ((← get).bindings.get? "HOME") true word

/-- An argument that looks like an assignment, with home directories put in after the sign. -/
def declarationAtHome? (word : Word) : Machine (Option Word) := do
  match Reader.assignment? word with
  | some (name, value) => return some (.text (name ++ ['=']) true :: (← valueAtHome value))
  | none => return none

def inLoop (action : Machine Unit) : Machine Unit := fun before =>
  (action { before with loops := before.loops + 1 }).andThen fun result after =>
    .done result { after with loops := before.loops }

/-- The script that a shell is asked to run; its name and parameters are set by the way. -/
def scriptOf (program : Text) (request : Mode.Request) : Machine Text := do
  if request.holdsScript then
    match request.rest with
    | [] => failAt 0 "-c requires an argument"
    | source :: rest =>
        modify fun state => { state with name := rest.headD program, arguments := rest.drop 1 }
        return source
  else if request.rest.isEmpty || request.modes.contains .readsInput then
    modify fun state =>
      { state with
        arguments := request.rest
        modes := Mode.switch true .readsInput state.modes }
    return Octets.ofBytes (← readAll 0)
  else
    let path := request.rest.headD []
    match (← get).files.read path with
    | .ok bytes =>
        modify fun state => { state with name := path, arguments := request.rest.drop 1 }
        return Octets.ofBytes bytes
    | .error .isADirectory => return []
    | .error error => failAt 0 ("cannot open " ++ path ++ ": " ++ Redirect.failure false error)

mutual

def expandParts : (fuel : Nat) → (splits : Bool) → Word → Machine (List Piece)
  | 0, _, _ => throw .expired
  | _ + 1, _, [] => return []
  | fuel + 1, splits, part :: rest => do
      let pieces ← expandPart fuel splits part
      return pieces ++ (← expandParts fuel splits rest)
termination_by structural fuel => fuel

def expandPart : (fuel : Nat) → (splits : Bool) → Part → Machine (List Piece)
  | 0, _, _ => throw .expired
  | fuel + 1, splits, part => do
      match part with
      | .text t isQuoted => return [if isQuoted then .whole t else .plain t]
      | .faulty =>
          fail "Bad substitution"
      | .parameter name isQuoted =>
          let state ← get
          if name == "@" || (name == "*" && !isQuoted) then
            let boundary := Piece.boundary (joint state.bindings)
            return (state.arguments.map (Piece.ofValue isQuoted)).intersperse boundary
          return [Piece.ofValue isQuoted ((← demandedValue? name).getD [])]
      | .length name isQuoted =>
          let t := (← demandedValue? name).getD []
          return [Piece.ofValue isQuoted (Text.ofNat t.length)]
      | .modified name modifier emptyIsUnset word isQuoted =>
          let value := (← linkedValue? name isQuoted splits).filter fun t =>
            !(emptyIsUnset && t.isEmpty)
          let word ← if isQuoted then pure word else atHome word
          let bindings := (← get).bindings
          match modifier, value with
          | .useDefault, none => return asValue isQuoted (← expandParts fuel splits word)
          | .useDefault, some t => return piecesOf bindings isQuoted t
          | .assignDefault, some t => return piecesOf bindings isQuoted t
          | .assignDefault, none =>
              let t := Field.text (← expandParts fuel false word)
              assign name t
              return [Piece.ofValue isQuoted t]
          | .demand, some t => return piecesOf bindings isQuoted t
          | .demand, none =>
              let t := Field.text (← expandParts fuel false word)
              let reason : Text :=
                if !t.isEmpty then t
                else if emptyIsUnset then "parameter not set or null"
                else "parameter not set"
              fail (name ++ ": " ++ reason)
          | .useAlternative, none => return [Piece.ofValue isQuoted []]
          | .useAlternative, some _ => return asValue isQuoted (← expandParts fuel splits word)
          | .dropStart longest, _ =>
              let t ← demandedLinkedValue name isQuoted splits
              let pattern := Field.pattern (← expandParts fuel false word)
              return piecesOf bindings isQuoted (pattern.dropStart longest t)
          | .dropEnd longest, _ =>
              let t ← demandedLinkedValue name isQuoted splits
              let pattern := Field.pattern (← expandParts fuel false word)
              return piecesOf bindings isQuoted (pattern.dropEnd longest t)
      | .output command isQuoted =>
          let before := (← get).status
          let bytes ← capture (untested (inChild (runToEnd fuel (run fuel command))))
          modify fun state => { state with status := before, captured := state.status }
          let t := (Octets.ofBytes bytes).filter (· != '\x00')
          return [Piece.ofValue isQuoted (t.reverse.dropWhile (· == '\n')).reverse]
      | .number expression isQuoted =>
          let t := Field.text (← expandParts fuel false expression)
          let state ← get
          match Arithmetic.evaluate t state.bindings with
          | .ok (n, bindings) =>
              set { state with bindings := bindings }
              return [Piece.ofValue isQuoted (Arithmetic.textOf n)]
          | .error .overflow => throw (.killed 8)
          | .error failure => fail (failure.message t)
termination_by structural fuel => fuel

def expandText : (fuel : Nat) → Word → Machine Text
  | 0, _ => throw .expired
  | fuel + 1, word => do return Field.text (← expandParts fuel false word)
termination_by structural fuel => fuel

def expandWords : (fuel : Nat) → List Word → Machine (List Text)
  | 0, _ => throw .expired
  | _ + 1, [] => return []
  | fuel + 1, word :: rest => do
      let fields := Field.ofPieces (← separators) (← expandParts fuel true (← atHome word))
      let state ← get
      let paths := fun (field : Pattern) =>
        if state.isIn .keepsPatterns then [Pattern.toText field]
        else Pattern.paths state.files field
      return fields.flatMap paths ++ (← expandWords fuel rest)
termination_by structural fuel => fuel

/-- The arguments of a command that sets variables: what looks like an assignment is one. -/
def expandDeclaration : (fuel : Nat) → List Word → Machine (List Text)
  | 0, _ => throw .expired
  | _ + 1, [] => return []
  | fuel + 1, word :: rest => do
      let fields ←
        match ← declarationAtHome? word with
        | some word => pure [← expandText fuel word]
        | none => expandWords fuel [word]
      return fields ++ (← expandDeclaration fuel rest)
termination_by structural fuel => fuel

def expandCommand : (fuel : Nat) → List Text → List Word → Machine (List Text)
  | 0, _, _ => throw .expired
  | _ + 1, fields, [] => return fields
  | fuel + 1, fields, word :: rest => do
      if Lookup.Call.isOpen fields then
        expandCommand fuel (fields ++ (← expandWords fuel [word])) rest
      else
        let builtin := (Lookup.Call.of fields).builtin? (← get)
        let more ←
          if (builtin.map (·.declares)).getD false then expandDeclaration fuel (word :: rest)
          else expandWords fuel (word :: rest)
        return fields ++ more
termination_by structural fuel => fuel

def matchesAny : (fuel : Nat) → Text → List Word → Machine Bool
  | 0, _, _ => throw .expired
  | _ + 1, _, [] => return false
  | fuel + 1, t, word :: rest => do
      let pattern := Field.pattern (← expandParts fuel false (← atHome word))
      if Pattern.isMatch pattern t then return true
      matchesAny fuel t rest
termination_by structural fuel => fuel

/-- Redirections with the names in them expanded; texts in the script stay as they are. -/
def named : (fuel : Nat) → List Redirection → Machine (List Redirection)
  | 0, _ => throw .expired
  | _ + 1, [] => return []
  | fuel + 1, redirection :: rest => do
      let path := fun (word : Word) => do
        return [Part.text (← expandText fuel (← atHome word)) true]
      let redirection ←
        match redirection with
        | .read descriptor source => pure (.read descriptor (← path source))
        | .write descriptor target isForced => pure (.write descriptor (← path target) isForced)
        | .append descriptor target => pure (.append descriptor (← path target))
        | .update descriptor target => pure (.update descriptor (← path target))
        | .duplicate descriptor source =>
            let t ← expandText fuel source
            if !Redirect.isDescriptorName t then
              failAt (← get).lineRead SyntaxError.badDescriptor.message
            pure (.duplicate descriptor [.text t true])
        | redirection => pure redirection
      return redirection :: (← named fuel rest)
termination_by structural fuel => fuel

/-- Carries out redirections with names, up to the first that fails.  A shell that goes on
with its own descriptors afterwards puts them aside, except for those given. -/
def redirect : (fuel : Nat) → (isLasting : Bool) → (replaced : List Nat) → List Redirection →
    Machine Bool
  | 0, _, _, _ => throw .expired
  | _ + 1, _, _, [] => return true
  | fuel + 1, isLasting, replaced, redirection :: rest => do
      let descriptor := redirection.descriptor
      let isDone ←
        match redirection with
        | .read descriptor source =>
            Redirect.openToRead descriptor (Reader.plainText source)
        | .write descriptor target isForced =>
            Redirect.openToWrite descriptor (Reader.plainText target)
              (⟨·, 0, false, true, false⟩) isForced
        | .append descriptor target =>
            Redirect.openToWrite descriptor (Reader.plainText target)
              (⟨·, 0, false, true, true⟩) false
        | .duplicate descriptor source =>
            Redirect.duplicate descriptor (Reader.plainText source)
              (!isLasting && !replaced.contains descriptor)
        | .update descriptor target =>
            Redirect.openToWrite descriptor (Reader.plainText target)
              (⟨·, 0, true, true, false⟩) true
        | .here descriptor text =>
            match ← attempt (expandText fuel text) with
            | .ok t =>
                openSupply descriptor ⟨Octets.bytes t, false, none⟩
                pure true
            | .error .failed => pure false
            | .error halt => throw halt
        | .ordered descriptor _ =>
            openSupply descriptor ⟨[], false, none⟩
            pure true
      if isDone then redirect fuel isLasting (descriptor :: replaced) rest else return false
termination_by structural fuel => fuel

def run : (fuel : Nat) → Command → Machine Unit
  | 0, _ => throw .expired
  | fuel + 1, command => do
      if (← get).isIn .onlyReads then setStatus 0
      else
      match command with
      | .simple line assignments words redirections =>
          modify fun state => { state with line := line }
          runSimple fuel assignments words redirections
          attend fuel
          checkFailure
      | .redirected line command redirections =>
          modify fun state => { state with line := line }
          let redirections ← named fuel redirections
          match command with
          | .subshell body =>
              inChild do
                if ← redirect fuel true [] redirections then runToEnd fuel (run fuel body)
                else setStatus 2
              attend fuel
              checkFailure
          | command =>
              keepingDescriptors do
                if ← redirect fuel false [] redirections then run fuel command
                else
                  setStatus 2
                  checkFailure
      | .sequence first second =>
          run fuel first
          run fuel second
      | .both first second =>
          tested (run fuel first)
          if (← get).status == 0 then run fuel second
      | .either first second =>
          tested (run fuel first)
          if (← get).status != 0 then run fuel second
      | .negated command =>
          tested (run fuel command)
          setStatus (if (← get).status == 0 then 1 else 0)
      | .pipe first second =>
          let (writer, buffer) ← launchWriter fuel first
          awaitLull buffer
          inChild do
            openSupply 0 ⟨[], false, some buffer⟩
            runToEnd fuel (run fuel second)
          abandon buffer
          awaitWriter writer
          giveUp buffer
          attend fuel
          checkFailure
      | .background (.redirected line command redirections) =>
          match command with
          | .subshell _ => launch fuel (.redirected line command redirections)
          | command => launch fuel (.redirected line command (← named fuel redirections))
      | .background command => launch fuel command
      | .subshell command =>
          inChild (runToEnd fuel (run fuel command))
          attend fuel
          checkFailure
      | .conditional test yes no =>
          tested (run fuel test)
          if (← get).status == 0 then run fuel yes else run fuel no
      | .loop whileSuccess test body => inLoop (runLoop fuel whileSuccess test body 0)
      | .each line name words body =>
          modify fun state => { state with line := line }
          let arguments := (← get).arguments
          let values ←
            match words with
            | some words => expandWords fuel words
            | none => pure arguments
          if values.isEmpty then setStatus 0 else inLoop (runEach fuel name body values)
      | .choice line subject branches =>
          modify fun state => { state with line := line }
          runChoice fuel (← expandText fuel (← atHome subject)) branches
      | .function name body =>
          modify fun state =>
            { state with functions := (name, body) :: state.functions.filter (·.1 != name) }
          setStatus 0
      | .nothing => setStatus 0
termination_by structural fuel => fuel

def runLoop : (fuel : Nat) → (whileSuccess : Bool) → (test body : Command) → (status : Nat) →
    Machine Unit
  | 0, _, _, _, _ => throw .expired
  | fuel + 1, whileSuccess, test, body, status => do
      let result ← attempt (tested (run fuel test))
      match result with
      | .error (.broken levels) =>
          setStatus status
          leaveLoops levels
      | .error (.continued 0) | .error (.continued 1) =>
          yield
          runLoop fuel whileSuccess test body status
      | .error (.continued levels) =>
          setStatus status
          throw (.continued (levels - 1))
      | .error halt => throw halt
      | .ok () =>
          if ((← get).status == 0) != whileSuccess then setStatus status
          else
            match ← attempt (run fuel body) with
            | .ok () | .error (.continued 0) | .error (.continued 1) =>
                yield
                runLoop fuel whileSuccess test body (← get).status
            | .error (.continued levels) => throw (.continued (levels - 1))
            | .error (.broken levels) => leaveLoops levels
            | .error halt => throw halt
termination_by structural fuel => fuel

def runEach : (fuel : Nat) → (name : Text) → (body : Command) → List Text → Machine Unit
  | 0, _, _, _ => throw .expired
  | _ + 1, _, _, [] => return ()
  | fuel + 1, name, body, value :: values => do
      assign name value
      match ← attempt (run fuel body) with
      | .ok () | .error (.continued 0) | .error (.continued 1) =>
          yield
          runEach fuel name body values
      | .error (.continued levels) => throw (.continued (levels - 1))
      | .error (.broken levels) => leaveLoops levels
      | .error halt => throw halt
termination_by structural fuel => fuel

def runChoice : (fuel : Nat) → Text → List (List Word × Command) → Machine Unit
  | 0, _, _ => throw .expired
  | _ + 1, _, [] => setStatus 0
  | fuel + 1, t, (patterns, body) :: rest => do
      if ← matchesAny fuel t patterns then run fuel body else runChoice fuel t rest
termination_by structural fuel => fuel

/-- Sets variables in turn, for good or for one command; tells their names. -/
def assignAll : (fuel : Nat) → (staysSet isSeen : Bool) → List (Text × Word) →
    Machine (List Text)
  | 0, _, _, _ => throw .expired
  | _ + 1, _, _, [] => return []
  | fuel + 1, staysSet, isSeen, (name, word) :: rest => do
      let t ← expandText fuel (← valueAtHome word)
      if staysSet then assign name t else makeLocal name (some t)
      if isSeen then
        modify fun state => { state with bindings := state.bindings.markExported name }
      return name :: (← assignAll fuel staysSet isSeen rest)
termination_by structural fuel => fuel

def prompt : (fuel : Nat) → Machine Text
  | 0 => throw .expired
  | fuel + 1 => do
      let modes := (← get).modes
      let t := ((← get).bindings.get? "PS4").getD []
      match (Source.ofText [] 1 t).documentParts? with
      | none => return t
      | some word =>
          modify fun state => { state with modes := Mode.switch false .showsCommands modes }
          let t ← expandText fuel word
          modify fun state => { state with modes := modes }
          return t
termination_by structural fuel => fuel

/-- Sets variables in front of a command, and shows all of it if that is wanted. -/
def prepare : (fuel : Nat) → (complaints : Option Channel) → (staysSet isSeen : Bool) →
    List (Text × Word) → List Text → Machine Unit
  | 0, _, _, _, _, _ => throw .expired
  | fuel + 1, complaints, staysSet, isSeen, assignments, fields => do
      let names ← assignAll fuel staysSet isSeen assignments
      if (← get).isIn .showsCommands then
        showCommand complaints (← prompt fuel) names fields
termination_by structural fuel => fuel

def runSimple : (fuel : Nat) → List (Text × Word) → List Word → List Redirection → Machine Unit
  | 0, _, _, _ => throw .expired
  | fuel + 1, assignments, words, redirections => do
      modify fun state => { state with captured := 0 }
      let before ← get
      let complaints := before.descriptors.lookup 2
      let fields ← expandCommand fuel [] words
      let redirections ← named fuel redirections
      match fields with
      | [] =>
          if ← keepingDescriptors (redirect fuel false [] redirections) then
            prepare fuel complaints true false assignments []
            setStatus (← get).captured
          else setStatus 2
      | fields =>
          let call := Lookup.Call.of fields
          let isSpecial := call.isSpecial (← get)
          let isExec := call.name == "exec" && (call.builtin? (← get)).isSome
          let action : Machine Unit := do
            if ← redirect fuel false [] redirections then
              let isSeen := !isSpecial || (isExec && !call.arguments.isEmpty)
              if isSpecial then
                prepare fuel complaints true isSeen assignments fields
                perform fuel call
              else
                withLocals do
                  prepare fuel complaints false isSeen assignments fields
                  perform fuel call
            else
              if isExec then
                modify fun state => state.restoreDescriptors before
              setStatus 2
              if isSpecial then throw .failed
          if isExec then action else keepingDescriptors action
termination_by structural fuel => fuel

def perform : (fuel : Nat) → Lookup.Call → Machine Unit
  | 0, _ => throw .expired
  | fuel + 1, call => do
      let state ← get
      match call.builtin? state with
      | some builtin =>
          let action :=
            match builtin.action with
            | some action => action call.arguments
            | none => runCommands fuel call
          match ← attempt (Builtin.carryOut call.name action) with
          | .error .failed => if call.isSpecial state then throw .failed
          | .error halt => throw halt
          | .ok () => return ()
      | none =>
          match if call.isPlain then none else state.functions.lookup call.name with
          | some body => runFunction fuel body call.arguments
          | none =>
              match Lookup.locate state call.usesStandardPath call.name with
              | .error error => refuse false call.name error
              | .ok path =>
                  if !call.usesStandardPath then Lookup.remember call.name
                  runAt fuel false (← get).bindings.visible path call.name call.arguments
termination_by structural fuel => fuel

def runCommands : (fuel : Nat) → Lookup.Call → Machine Unit
  | 0, _ => throw .expired
  | fuel + 1, call =>
      if call.name == "eval" then runScript fuel false (Text.joinWith [' '] call.arguments)
      else if call.name == "." then
        match Options.read [] call.arguments with
        | .error reason => fail reason
        | .ok (_, []) => setStatus 0
        | .ok (_, path :: _) => runFile fuel path
      else if call.name == "exec" then
        match call.arguments with
        | [] => setStatus 0
        | name :: arguments => do
            match Lookup.locate (← get) false name with
            | .error error => refuse true name error
            | .ok path => runAt fuel true (← get).bindings.visible path name arguments
            throw .left
      else if call.name == "type" then Lookup.describeAll call.arguments
      else if call.name == "hash" then Lookup.hash call.arguments
      else Lookup.verify call.arguments
termination_by structural fuel => fuel

def runFile : (fuel : Nat) → (path : Text) → Machine Unit
  | 0, _ => throw .expired
  | fuel + 1, path => do
      let state ← get
      let search := Text.splitBy (· == ':') ((state.bindings.get? "PATH").getD [])
      let candidates := search.map fun directory =>
        if directory.isEmpty then path else directory ++ '/' :: path
      let found :=
        if List.contains path '/' then some path
        else candidates.find? fun path => (state.files.read path).isOk
      match found with
      | none => fail (path ++ ": not found")
      | some path =>
          match state.files.read path with
          | .error error => fail ("cannot open " ++ path ++ ": " ++ Redirect.failure false error)
          | .ok bytes =>
              let action := untested (runScript fuel true (Octets.ofBytes bytes))
              match ← attempt (speakingAs path action) with
              | .ok () | .error .returned => return ()
              | .error halt => throw halt
termination_by structural fuel => fuel

def runAt : (fuel : Nat) → (isExec : Bool) → Variables → (path name : Text) → List Text →
    Machine Unit
  | 0, _, _, _, _, _ => throw .expired
  | fuel + 1, isExec, environment, path, name, arguments => do
      let place := if isExec then id else asProgram
      match Lookup.executable (← get).files Lookup.interpreterLimit path with
      | .error error => refuse isExec name error
      | .ok .script => place (runShell fuel environment "/bin/sh" (path :: arguments))
      | .ok (.scriptFor interpreter before) =>
          runAt fuel isExec environment interpreter interpreter (before ++ path :: arguments)
      | .ok (.program known) =>
          if Lookup.shells.contains known then place (runShell fuel environment name arguments)
          else
            match Program.find? known with
            | some program => place (runProgram fuel environment name program arguments)
            | none => refuse isExec name .notFound
termination_by structural fuel => fuel

def runProgram : (fuel : Nat) → Variables → (name : Text) → Program → List Text → Machine Unit
  | 0, _, _, _, _ => throw .expired
  | fuel + 1, environment, name, program, arguments => do
      modify fun state =>
        { state with
          lostOutput := none
          traps := state.traps.filter (·.2.isEmpty) }
      let state ← get
      let course := program arguments (surroundingsOf state environment name) (sceneOf state 0)
      ofCourse (writesAtOnce name) (runErrand fuel) 0 course
      checkOutput name
termination_by structural fuel => fuel

def runErrand : (fuel : Nat) → Errand → Machine Ending
  | 0, _ => throw .expired
  | fuel + 1, errand => do
      let state ← get
      match Lookup.locateFor state.files errand.environment errand.name with
      | .error error => return .notStarted error
      | .ok path =>
          let action : Machine Unit := do
            modify fun state => { state with deafTo := errand.deafTo ++ state.deafTo }
            if errand.readsNothing then
              openFile 0 ⟨["dev".toList, "null".toList], 0, true, false, false⟩
            runAt fuel true errand.environment path errand.name errand.arguments
          if errand.isLast then
            action
            return .ended (.code ((← get).status % 256))
          else forkWithin errand.limit action
termination_by structural fuel => fuel

def runFunction : (fuel : Nat) → Command → List Text → Machine Unit
  | 0, _, _ => throw .expired
  | fuel + 1, body, arguments => do
      let before ← get
      if before.depth == depthLimit then
        fail ("Maximum function recursion depth (" ++ Text.ofNat depthLimit ++ ") reached")
      set { before with
        arguments := arguments
        place := .start
        depth := before.depth + 1
        loops := 0
        endsHere := false }
      let result ← attempt (run fuel body)
      modify fun state =>
        { state with
          arguments := before.arguments
          place := before.place
          depth := before.depth
          loops := before.loops }
      match result with
      | .ok () | .error .returned => return ()
      | .error halt => throw halt
termination_by structural fuel => fuel

def attend : (fuel : Nat) → Machine Unit
  | 0 => throw .expired
  | fuel + 1 => do
      let state ← get
      match state.signals.find? (·.1 == state.process) with
      | none => return ()
      | some (process, signal) =>
          set { state with signals := state.signals.erase (process, signal) }
          match state.effect signal with
          | .nothing => pure ()
          | .ends => throw (.killed signal)
          | .stops => await .never
          | .runs action =>
              untested (runScript fuel false action)
              setStatus state.status
          attend fuel
termination_by structural fuel => fuel

def runToEnd : (fuel : Nat) → Machine Unit → Machine Unit
  | 0, _ => throw .expired
  | fuel + 1, action => do
      match ← attempt action with
      | .error (.killed signal) => throw (.killed signal)
      | .error .expired => throw .expired
      | _ =>
          let state ← get
          match state.traps.lookup 0 with
          | none => return ()
          | some farewell =>
              set { state with traps := state.traps.filter (·.1 != 0) }
              match ← attempt (untested (runScript fuel false farewell)) with
              | .ok () | .error .returned => setStatus state.status
              | .error halt => throw halt
termination_by structural fuel => fuel

/-- Runs a script up to the first mistake in it; the lines of a file may be shown. -/
def runScript : (fuel : Nat) → (isFile : Bool) → Text → Machine Unit
  | 0, _, _ => throw .expired
  | fuel + 1, isFile, script => do
      let lineRead := (← get).lineRead
      deeper (runSource fuel isFile true (.ofText [] 1 script))
      modify fun state => { state with lineRead := lineRead }
termination_by structural fuel => fuel

/-- Runs what is left of a source; without any commands, that is a success. -/
def runSource : (fuel : Nat) → (isFile isFirst : Bool) → Source → Machine Unit
  | 0, _, _, _ => throw .expired
  | fuel + 1, isFile, isFirst, source => do
      let source := { source with aliases := (← get).aliases }
      let display := fun (size : Nat) => do
        if isFile && (← get).isIn .showsLines then
          write 2 (Octets.bytes (source.rest.take size))
      match source.next? with
      | .error mistake =>
          let pieces := Text.pieces source.rest
          display (pieces.take (mistake.line + 1 - source.line)).flatten.length
          failAt mistake.line mistake.error.message
      | .ok none =>
          display source.rest.length
          if isFirst then setStatus 0
      | .ok (some (command, rest)) =>
          display (source.rest.length - rest.rest.length)
          modify fun state => { state with lineRead := rest.line }
          run fuel command
          runSource fuel isFile false rest
termination_by structural fuel => fuel

def runShell : (fuel : Nat) → Variables → (program : Text) → List Text → Machine Unit
  | 0, _, _, _ => throw .expired
  | fuel + 1, environment, program, arguments => do
      modify fun now =>
        { State.start now.files program [] environment with
          toWorld := now.toWorld
          deafTo := (now.traps.filter (·.2.isEmpty)).map (·.1) ++ now.deafTo
          process := now.process
          shell := now.process
          descriptors := now.descriptors
          kept := now.kept }
      runToEnd fuel do
        match Mode.request true [] arguments with
        | .error reason => failAt 0 reason
        | .ok request =>
            print request.shown
            modify fun state => { state with modes := request.modes }
            let source ← scriptOf program request
            runScript fuel (!request.holdsScript) source
termination_by structural fuel => fuel
end

end Shell
end StubAssist
