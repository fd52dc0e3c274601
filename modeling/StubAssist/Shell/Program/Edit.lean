import StubAssist.Shell.Program.Edit.Reader
import StubAssist.Shell.Program.Paths

/-!
# Editing lines

Line by line, a text is brought into a space, where the steps of a script change it, and
is printed.  Files can be replaced by what is printed for them.
-/

namespace StubAssist
namespace Shell
namespace Program

open Activity

namespace Edit

/-!
# What an editor knows
-/

structure Line where
  text : Text
  isEnded : Bool
deriving DecidableEq, Repr

def linesOf (ending : Char) (t : Text) : List Line :=
  (pieces ending t).map fun piece =>
    let (line, isEnded) := unended ending piece
    ⟨line, isEnded⟩

structure Manner where
  isSilent : Bool
  isSeparate : Bool
  replaces : Option Text
  ending : Char
  width : Nat
deriving DecidableEq, Repr

inductive Appended where
  | text (t : Text)
  | file (path : Text)
deriving DecidableEq, Repr

structure Editor where
  manner : Manner
  script : Script
  space : Line
  held : Line
  number : Nat
  name : Text
  lines : List Line
  supply : List Line
  isOpen : Bool
  operands : List Text
  target : Option Text
  printed : List Text
  /-- Files whose last line has not been ended yet; the output itself has no name. -/
  unended : List Text
  appended : List Appended
  /-- Ranges that have begun, with the number of the line where they end if that is known. -/
  ranges : List (Nat × Option Nat)
  readers : List (Text × List Text)
  isReplaced : Bool
  lastExpression : Option Expression

abbrev Editing := StateT Editor Activity

inductive After where
  | nextStep
  | step (index : Nat)
  | again
  | nextLine (prints : Bool)
  | stop (status : Nat)
deriving DecidableEq, Repr

/-!
# Printing
-/

def startRanges (script : Script) : List (Nat × Option Nat) :=
  (List.range script.steps.size).filterMap fun index =>
    match script.steps[index]? with
    | some step =>
        match step.selection.first with
        | some (.line 0) => some (index, none)
        | _ => none
    | none => none

def flush : Editing Unit := do
  let editor ← get
  if editor.target.isNone then
    Activity.print (editor.printed.reverse.flatten)
    set { editor with printed := [] }

def emit (t : Text) : Editing Unit :=
  modify fun editor => { editor with printed := t :: editor.printed }

def missingEnd (name : Text) : Editing Text := do
  let editor ← get
  if editor.unended.contains name then
    set { editor with unended := editor.unended.filter (· != name) }
    return [editor.manner.ending]
  else return []

def printText (t : Text) : Editing Unit := do
  emit ((← missingEnd []) ++ t)

def lineText (name : Text) (line : Line) : Editing Text := do
  let start ← missingEnd name
  if line.isEnded then return start ++ line.text ++ [(← get).manner.ending]
  else
    modify fun editor => { editor with unended := name :: editor.unended }
    return start ++ line.text

def printLine (line : Line) : Editing Unit := do
  emit (← lineText [] line)

def addTo (path : Text) (t : Text) : Editing Unit := do
  if path == "/dev/stdout" then
    if (← get).target.isNone then emit t else Activity.print t
  else if path == "/dev/stderr" then writeTo .complaints t
  else
    match (← files).append path (Octets.bytes t) with
    | .ok files => setFiles files
    | .error _ => return ()

def writeLine (path : Text) (line : Line) : Editing Unit := do
  addTo path (← lineText (if path == "/dev/stdout" then [] else path) line)

def printAppended : Editing Unit := do
  let appended := (← get).appended.reverse
  modify fun editor => { editor with appended := [] }
  for item in appended do
    match item with
    | .text t => printText t
    | .file path =>
        match ← contents (if path == "/dev/stdin" then "-" else path) with
        | .ok t => printText t
        | .error _ => printText []

def abandon {α : Type} (status : Nat) (complaint : Text) : Editing α := do
  remark complaint
  flush
  Activity.exit status

/-!
# Reading
-/

/-- The name of the copy of a file; a star in it stands for the name of the file. -/
def copyName (suffix path : Text) : Text :=
  let name := lastName path
  let directory := path.take (path.length - name.length)
  let copy :=
    if List.contains suffix '*' then
      suffix.flatMap fun c => if c == '*' then name else [c]
    else name ++ suffix
  if List.contains copy '/' then copy else directory ++ copy

def finishFile : Editing Unit := do
  let editor ← get
  match editor.target, editor.manner.replaces with
  | some path, some suffix =>
      let files ← files
      let bytes := Octets.bytes editor.printed.reverse.flatten
      set { editor with target := none, printed := [], unended := editor.unended.filter (· != []) }
      match files.lookup path with
      | .ok (_, node) =>
          let attributes := { node.attributes with time := files.clock }
          let files ←
            if suffix.isEmpty then pure files
            else
              match files.move path (copyName suffix path) with
              | .ok files => pure files
              | .error error =>
                  abandon 4 ("cannot rename " ++ path ++ ": " ++ reason error)
          match files.locate false path with
          | .ok location => setFiles (files.put location (.file bytes attributes))
          | .error _ => return ()
      | .error _ => return ()
  | _, _ => return ()

def openFile (name : Text) : Editing Unit := do
  let editor ← get
  let isPath := name != "-" || editor.manner.replaces.isSome
  match ← if isPath then intakeAt name else operandIntake name with
  | .ok intake =>
      let isFile := match (← files).lookup name with
        | .ok (_, .file _ _) => true
        | _ => false
      if editor.manner.replaces.isSome && !isFile then
        abandon 4 ("couldn't edit " ++ name ++ ": not a regular file")
      let all := linesOf editor.manner.ending intake.text
      let lines := if intake.isPartial then all.filter (·.isEnded) else all
      if intake.isEndless && !lines.all (·.isEnded) then
        flush
        continueForever
      set { editor with
        name := name
        lines := lines
        supply := if intake.isEndless then lines else []
        isOpen := intake.isPartial
        target := if editor.manner.replaces.isSome then some name else none
        number := if editor.manner.isSeparate then 0 else editor.number
        ranges := if editor.manner.isSeparate then startRanges editor.script else editor.ranges }
  | .error error =>
      if error == .isADirectory && editor.manner.replaces.isSome then
        abandon 4 ("couldn't edit " ++ name ++ ": not a regular file")
      if isReadFailure error then
        let source := if name == "-" then "stdin".toList else name
        abandon 4 ("read error on " ++ source ++ ": " ++ reason error)
      remark ("can't read " ++ name ++ ": " ++ reason error)
      setStatus 2

def awaitLines : Editing Unit := do
  if (← get).isOpen then
    flush
    continueForever

def findLines : (fuel : Nat) → Editing Unit
  | 0 => return ()
  | fuel + 1 => do
      let editor ← get
      if !editor.lines.isEmpty then return ()
      awaitLines
      if !editor.supply.isEmpty then
        set { editor with lines := editor.supply }
        return ()
      finishFile
      match editor.operands with
      | [] => return ()
      | operand :: operands =>
          modify fun editor => { editor with operands := operands }
          openFile operand
          findLines fuel

def isLast : Editing Bool := do
  let editor ← get
  if !editor.lines.isEmpty || !editor.supply.isEmpty then return false
  awaitLines
  if editor.manner.isSeparate then return true
  findLines (editor.operands.length + 1)
  return (← get).lines.isEmpty

def readLine (joins : Bool) : Editing Bool := do
  printAppended
  modify fun editor => { editor with isReplaced := false }
  findLines ((← get).operands.length + 1)
  let editor ← get
  match editor.lines with
  | [] => return false
  | line :: lines =>
      let space : Line :=
        if joins then ⟨editor.space.text ++ editor.manner.ending :: line.text, line.isEnded⟩
        else line
      set { editor with lines := lines, number := editor.number + 1, space := space }
      return true

/-!
# Selecting lines
-/

def remembered (expression : Option Expression) : Editing Expression := do
  match expression with
  | some expression =>
      modify fun editor => { editor with lastExpression := some expression }
      return expression
  | none =>
      match (← get).lastExpression with
      | some expression => return expression
      | none => abandon 1 "-e expression #1, char 0: no previous regular expression"

def search (expression : Expression) (t : Text) : Editing Regex.Search := do
  let ending := (← get).manner.ending
  let divider := if expression.hasLines then some ending else none
  return .of expression.regex expression.ignoresCase (.ofText divider t)

def isAt (address : Address) : Editing Bool := do
  let editor ← get
  match address with
  | .line number => return editor.number == number
  | .steps first step =>
      return decide (first ≤ editor.number) && (editor.number - first) % step == 0
  | .last => isLast
  | .matching expression =>
      return (← search (← remembered expression) editor.space.text).hasMatch

def setRange (index : Nat) (range : Option (Option Nat)) : Editing Unit :=
  modify fun editor =>
    let others := editor.ranges.filter (·.1 != index)
    { editor with
      ranges := match range with
        | some stop => (index, stop) :: others
        | none => others }

/-- Begins a range with the current line, unless that is all of it. -/
def beginRange (index : Nat) (last : Ending) : Editing Unit := do
  let number := (← get).number
  match last with
  | .at (.line stop) => if number < stop then setRange index (some (some stop))
  | .at _ => setRange index (some none)
  | .further count => if count != 0 then setRange index (some (some (number + count)))
  | .multiple n => if n != 0 then setRange index (some (some ((number / n + 1) * n)))

def isInside (index : Nat) (selection : Selection) : Editing Bool := do
  match selection.first, selection.last with
  | none, _ => return true
  | some first, none => isAt first
  | some first, some last =>
      let editor ← get
      match editor.ranges.lookup index, last with
      | none, _ =>
          if !(← isAt first) then return false
          beginRange index last
          return true
      | some (some stop), _ =>
          if stop ≤ editor.number then setRange index none
          return decide (editor.number ≤ stop)
      | some none, .at address =>
          if ← isAt address then setRange index none
          return true
      | some none, _ => return true

def isSelected (index : Nat) (selection : Selection) : Editing Bool := do
  return (← isInside index selection) != selection.isNegated

/-!
# Substitution
-/

/-- How letters are written: up to the next change, and the next one. -/
structure Writing where
  usual : Casing
  next : Option Casing

def Casing.apply (casing : Casing) (c : Char) : Char :=
  match casing with
  | .upper | .upperNext => c.toUpper
  | .lower | .lowerNext => c.toLower
  | .asIs => c

def Writing.write (writing : Writing) : Text → Text × Writing
  | [] => ([], writing)
  | c :: rest =>
      let first := (writing.next.getD writing.usual).apply c
      (first :: rest.map writing.usual.apply, { writing with next := none })

def replacementFor (pieces : List Piece) (t : Text) (found : Regex.Match) : Text :=
  (pieces.foldl (fun (written, writing) piece =>
    let add := fun (t : Text) =>
      let (t, writing) := Writing.write writing t
      (written ++ t, writing)
    match piece with
    | .text t => add t
    | .group index =>
        match found.span? index with
        | some (start, stop) => add (Regex.slice t start stop)
        | none => (written, writing)
    | .casing casing =>
        match casing with
        | .upperNext | .lowerNext => (written, { writing with next := some casing })
        | _ => (written, ⟨casing, none⟩))
    (([] : Text), (⟨.asIs, none⟩ : Writing))).1

/--
Replaces matches from a position on, of which `count` have been passed over and the last
one ended at `stop`; an empty match does not follow another one at once.  `fuel` bounds
the number of matches.
-/
def replaceFrom (s : Substitution) (search : Regex.Search) (t : Text) :
    (fuel start count : Nat) → (stop : Option Nat) → Text × Bool
  | 0, start, _, _ => (t.drop start, false)
  | fuel + 1, start, count, stop =>
      match search.find? start with
      | none => (t.drop start, false)
      | some found =>
          let before := Regex.slice t start found.start
          let isEmpty := found.stop == found.start
          if isEmpty && stop == some found.start then
            let (rest, isReplaced) := replaceFrom s search t fuel (found.stop + 1) count none
            (before ++ Regex.slice t found.start (found.start + 1) ++ rest, isReplaced)
          else
            let isDue := s.first ≤ count + 1
            let shown := if isDue then replacementFor s.replacement t found
              else Regex.slice t found.start found.stop
            if isDue && !s.isGlobal then (before ++ shown ++ t.drop found.stop, true)
            else
              let skipped := if isEmpty then 1 else 0
              let (rest, isReplaced) :=
                replaceFrom s search t fuel (found.stop + skipped) (count + 1) (some found.stop)
              (before ++ shown ++ Regex.slice t found.stop (found.stop + skipped) ++ rest,
                isDue || isReplaced)

/-!
# Commands
-/

def captureFile : Text := "/tmp/.edited"

def runCommand (command : Text) : Editing Unit := do
  flush
  let environment := (← surroundings).environment
  let _ ← call (.plain "sh" ["-c".toList, command] environment)

def outputOf (command : Text) : Editing Text := do
  runCommand ("exec >" ++ captureFile ++ "; ".toList ++ command)
  let files ← files
  let t := match files.read captureFile with
    | .ok bytes => Octets.ofBytes bytes
    | .error _ => []
  setFiles ((files.removeFile captureFile).toOption.getD files)
  return t

def executeSpace : Editing Unit := do
  let editor ← get
  let t ← outputOf editor.space.text
  let (t, _) := unended editor.manner.ending t
  modify fun editor => { editor with space := { editor.space with text := t } }

def substitute (s : Substitution) : Editing Unit := do
  let expression ← remembered s.expression
  let t := (← get).space.text
  let (t, isReplaced) := replaceFrom s (← search expression t) t (t.length + 2) 0 0 none
  if isReplaced then
    modify fun editor =>
      { editor with space := { editor.space with text := t }, isReplaced := true }
    if s.executes then executeSpace
    if s.prints then printLine (← get).space
    match s.target with
    | some path => writeLine path (← get).space
    | none => return ()

def visible (c : Char) : Text :=
  if c == '\\' then ['\\', '\\'] else if isPrintable c then [c] else escaped c

/-- Shows a text in lines of a width, all but the last of which go on; zero is no limit. -/
def listed (ending : Char) (width : Nat) (t : Text) : Text :=
  let (shown, _) := t.foldl (fun (shown, column) c =>
    let piece := visible c
    if width != 0 && width - 1 < column + piece.length then
      (piece.reverse ++ ending :: '\\' :: shown, piece.length)
    else (piece.reverse ++ shown, column + piece.length)) (([] : Text), 0)
  (ending :: '$' :: shown).reverse

def splitSpace : Editing (Text × Option Text) := do
  let editor ← get
  match Text.splitFirst editor.manner.ending editor.space.text with
  | some (first, rest) => return (first, some rest)
  | none => return (editor.space.text, none)

def nextOf (path : Text) : Editing (Option Text) := do
  let editor ← get
  let lines ←
    match editor.readers.lookup path with
    | some lines => pure lines
    | none =>
        match ← contents (if path == "/dev/stdin" then "-" else path) with
        | .ok t => pure (pieces editor.manner.ending t)
        | .error _ => pure []
  modify fun editor =>
    { editor with
      readers := (path, lines.drop 1) :: editor.readers.filter (·.1 != path) }
  return lines.head?

def append (item : Appended) : Editing Unit :=
  modify fun editor => { editor with appended := item :: editor.appended }

def setSpace (t : Text) : Editing Unit :=
  modify fun editor => { editor with space := { editor.space with text := t } }

def withEnd (ending : Char) (t : Text) : Text :=
  if t.getLast? == some '\n' then t.dropLast ++ [ending] else t

/-- Ends the editing with a status; what is left of the input is for others. -/
def quit (status : Nat) : Editing After := do
  let editor ← get
  if editor.name == "-" then
    leaveUnread (editor.lines.flatMap fun line =>
      line.text ++ if line.isEnded then [editor.manner.ending] else [])
  return .stop status

def perform (index : Nat) (action : Action) : Editing After := do
  let editor ← get
  match action with
  | .nothing | .block _ => return .nextStep
  | .jump turn target =>
      let isTaken := match turn with
        | .always => true
        | .ifReplaced => editor.isReplaced
        | .unlessReplaced => !editor.isReplaced
      if turn != .always then set { editor with isReplaced := false }
      return if isTaken then .step target else .nextStep
  | .substitute s =>
      substitute s
      return .nextStep
  | .transliterate pairs =>
      setSpace (editor.space.text.map fun c => (pairs.lookup c).getD c)
      return .nextStep
  | .append t =>
      if !t.isEmpty then append (.text t)
      return .nextStep
  | .insert t =>
      if !t.isEmpty then printText (withEnd editor.manner.ending t)
      return .nextStep
  | .change t =>
      if (editor.ranges.lookup index).isNone then
        printText (withEnd editor.manner.ending t)
      return .nextLine false
  | .delete => return .nextLine false
  | .deleteFirst =>
      match ← splitSpace with
      | (_, none) => return .nextLine false
      | (_, some rest) =>
          setSpace rest
          return .again
  | .print =>
      printLine editor.space
      return .nextStep
  | .printFirst =>
      printLine ⟨(← splitSpace).1, true⟩
      return .nextStep
  | .next =>
      if ← isLast then return .nextLine true
      if !(editor.manner.isSilent) then printLine editor.space
      let _ ← readLine false
      return .nextStep
  | .join =>
      if ← isLast then return .nextLine true
      let _ ← readLine true
      return .nextStep
  | .hold =>
      set { editor with held := editor.space }
      return .nextStep
  | .holdMore =>
      let t := editor.held.text ++ editor.manner.ending :: editor.space.text
      set { editor with held := ⟨t, editor.space.isEnded⟩ }
      return .nextStep
  | .get =>
      set { editor with space := editor.held }
      return .nextStep
  | .getMore =>
      let t := editor.space.text ++ editor.manner.ending :: editor.held.text
      set { editor with space := ⟨t, editor.held.isEnded⟩ }
      return .nextStep
  | .exchange =>
      set { editor with space := editor.held, held := editor.space }
      return .nextStep
  | .clear =>
      setSpace []
      return .nextStep
  | .number =>
      printText (Text.ofNat editor.number ++ [editor.manner.ending])
      return .nextStep
  | .fileName =>
      printText (editor.name ++ [editor.manner.ending])
      return .nextStep
  | .list width =>
      let width := width.getD editor.manner.width
      printText (listed editor.manner.ending width editor.space.text)
      return .nextStep
  | .quit status =>
      if !editor.manner.isSilent then printLine editor.space
      printAppended
      quit status
  | .quitSilently status => quit status
  | .read path =>
      append (.file path)
      return .nextStep
  | .readLine path =>
      match ← nextOf path with
      | some piece => append (.text piece)
      | none => pure ()
      return .nextStep
  | .write path =>
      writeLine path editor.space
      return .nextStep
  | .writeFirst path =>
      writeLine path ⟨(← splitSpace).1, true⟩
      return .nextStep
  | .execute command =>
      if command.isEmpty then executeSpace
      else
        let t ← outputOf command
        if !t.isEmpty then printText t
      return .nextStep

def run : (fuel : Nat) → (index : Nat) → Editing Nat
  | 0, _ => do
      flush
      continueForever
  | fuel + 1, index => do
      let editor ← get
      let after ←
        match editor.script.steps[index]? with
        | none => pure (After.nextLine true)
        | some step =>
            let isSelected ← isSelected index step.selection
            match isSelected, step.action with
            | false, .block stop => pure (.step stop)
            | false, _ => pure .nextStep
            | true, action => perform index action
      match after with
      | .nextStep => run fuel (index + 1)
      | .step target => run fuel target
      | .again => run fuel 0
      | .stop status => return status
      | .nextLine prints =>
          if prints && !editor.manner.isSilent then printLine (← get).space
          if ← readLine false then run fuel 0 else return 0

def patience : Nat := 200000

def editAll : Editing Nat := do
  if !(← readLine false) then return 0
  run patience 0

/-!
# The program
-/

def words : List (Text × Char × Valued) :=
  [("binary", 'b', .no), ("regexp-extended", 'E', .no), ("debug", 'D', .no),
    ("in-place", 'i', .maybe), ("expression", 'e', .yes), ("file", 'f', .yes),
    ("line-length", 'l', .yes), ("null-data", 'z', .no), ("zero-terminated", 'z', .no),
    ("quiet", 'n', .no), ("posix", 'p', .no), ("silent", 'n', .no), ("sandbox", 'S', .no),
    ("separate", 's', .no), ("unbuffered", 'u', .no), ("follow-symlinks", 'F', .no)]

def forms : OptionForms where
  letters := "bsnrzuEe:f:l:i::s"
  words := words
  isOrdered := false

def misuse {α : Type} (complaint : Option Text) : Activity α := do
  match complaint with
  | some t => remark t
  | none => pure ()
  let name := (← surroundings).name
  writeTo .complaints
    ("Usage: " ++ name ++ " [OPTION]... \x7bscript-only-if-no-other-script\x7d [input-file]...\n\n")
  exit 1

def partsOf (given : Given) : Activity (List (Origin × Text)) := do
  let mut parts := []
  let mut index := 0
  for option in given.options do
    match option.key, option.value with
    | 'e', some t =>
        index := index + 1
        parts := parts ++ [(Origin.argument index, t)]
    | 'f', some path =>
        match ← contents path with
        | .ok t => parts := parts ++ [(Origin.file path, (unended '\n' t).1)]
        | .error error =>
            fail 4 ("couldn't open file " ++ path ++ ": " ++ reason error)
    | _, _ => pure ()
  return parts

def usesFiles (step : Step) : Bool :=
  match step.action with
  | .read _ | .readLine _ | .write _ | .writeFirst _ | .execute _ => true
  | .substitute s => s.target.isSome || s.executes
  | _ => false

def emptyTargets (script : Script) : Activity Unit := do
  for step in script.steps.toList do
    let target := match step.action with
      | .write path | .writeFirst path => some path
      | .substitute s => s.target
      | _ => none
    match target with
    | none => pure ()
    | some path =>
        if path != "/dev/stdout" && path != "/dev/stderr" then
          match (← files).write path [] with
          | .ok files => setFiles files
          | .error error => fail 4 ("couldn't open file " ++ path ++ ": " ++ reason error)

end Edit

def sed : Program := fun arguments => do
  let given ←
    match Edit.forms.read? arguments with
    | .ok (options, operands) => pure (Given.mk options operands)
    | .error flaw => Edit.misuse (some flaw)
  let named ← Edit.partsOf given
  let (parts, operands) ←
    if !named.isEmpty then pure (named, given.operands)
    else
      match given.operands with
      | script :: operands => pure ([(Edit.Origin.argument 1, script)], operands)
      | [] => Edit.misuse none
  let script ←
    match Edit.Script.read (given.has 'E' || given.has 'r') parts with
    | .ok script => pure script
    | .error flaw => fail flaw.status flaw.reason
  if given.has 'S' && script.steps.any Edit.usesFiles then
    fail 1 "-e expression #1, char 0: e/r/w commands disabled in sandbox mode"
  Edit.emptyTargets script
  let replaces := (given.last? "i").map fun option => option.value.getD []
  if replaces.isSome && operands.isEmpty then fail 4 "no input files"
  let manner : Edit.Manner :=
    { isSilent := given.has 'n' || script.isSilent
      isSeparate := given.has 's' || replaces.isSome
      replaces := replaces
      ending := if given.has 'z' then '\x00' else '\n'
      width := ((given.value? 'l').bind (Text.digitsFrom? 0)).getD 70 }
  let editor : Edit.Editor :=
    { manner := manner
      script := script
      space := ⟨[], true⟩
      held := ⟨[], true⟩
      number := 0
      name := ['-']
      lines := []
      supply := []
      isOpen := false
      operands := orInput operands
      target := none
      printed := []
      unended := []
      appended := []
      ranges := Edit.startRanges script
      readers := []
      isReplaced := false
      lastExpression := none }
  let (status, editor) ← Edit.editAll.run editor
  let (_, editor) ← Edit.finishFile.run editor
  let _ ← Edit.flush.run editor
  if status != 0 then setStatus status

end Program
end Shell
end StubAssist
