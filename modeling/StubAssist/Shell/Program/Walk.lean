import StubAssist.Shell.Regex.Match
import StubAssist.Shell.Program.Facts
import StubAssist.Shell.Program.Listing
import StubAssist.Shell.Program.Walk.Reader

/-!
# Walks through directories

From each path on, everything below is visited, and an expression is evaluated for it.
-/

namespace StubAssist
namespace Shell
namespace Program

open Activity

namespace Walk

structure Visit where
  path : Text
  start : Text
  depth : Nat
  location : Location
  node : Node

structure Progress where
  isPruned : Bool
  isOver : Bool
  /-- Files for programs that are run for many of them, with the directory of the latest one. -/
  gathered : List (Nat × Text × List Text)

abbrev Walking := StateT Progress Activity

/-!
# Questions
-/

def fold (t : Text) : Text :=
  t.map Char.toLower

def hasForm (pattern : Pattern) (foldsCase : Bool) (t : Text) : Bool :=
  if foldsCase then
    Pattern.isMatch (pattern.map fun glyph => { glyph with char := glyph.char.toLower }) (fold t)
  else pattern.isMatch t

def kindOf (node : Node) : Char :=
  if kindLetter node == '-' then 'f' else kindLetter node

/-- What a link leads to, or a node itself; a broken link is only a link. -/
def seenThrough (files : FileTree) (visit : Visit) : Node :=
  match files.lookup visit.path with
  | .ok (_, node) => node
  | .error _ => visit.node

def answer (files : FileTree) (visit : Visit) : Question → Bool
  | .always answer => answer
  | .name pattern foldsCase => hasForm pattern foldsCase (lastName visit.path)
  | .path pattern foldsCase => hasForm pattern foldsCase visit.path
  | .target pattern foldsCase =>
      match visit.node with
      | .link target _ => hasForm pattern foldsCase target
      | _ => false
  | .matching regex ignoresCase =>
      let search := Regex.Search.of regex ignoresCase (.ofText none visit.path)
      (search.findSpan? (fun start stop => start == 0 && stop == visit.path.length) 0).isSome
  | .kind letters seesThrough =>
      List.contains letters (kindOf (if seesThrough then seenThrough files visit else visit.node))
  | .empty =>
      match visit.node with
      | .directory entries _ => entries.isEmpty
      | .file bytes _ => bytes.isEmpty
      | _ => false
  | .size amount unit => amount.admits ((sizeOf visit.node + unit - 1) / unit)
  | .age amount unit => amount.admits ((files.clock - visit.node.attributes.time) / unit)
  | .newerThan time => time < visit.node.attributes.time
  | .rights mode share =>
      let own := visit.node.attributes.mode
      match share with
      | .exactly => own == mode
      | .all => own &&& mode == mode
      | .any => mode == 0 || own &&& mode != 0
  | .permits bits =>
      match seenThrough files visit with
      | .link _ _ => false
      | node => node.isDirectory || bits == 0o666 || node.attributes.mode &&& bits != 0
  | .links amount => amount.admits (Listing.linkCount visit.node)
  | .isAt location => visit.location == location

/-!
# Templates
-/

def timeText (time : Nat) (letter : Char) : Text :=
  let template : Text :=
    match letter with
    | '@' => "%s.%N"
    | '+' => "%Y-%m-%d+%H:%M:%S.%N"
    | 'S' => "%S.%N"
    | 'T' | 'X' => "%H:%M:%S.%N"
    | c => ['%', c]
  let t := Moment.format (Moment.ofSeconds (time / 1000 : Nat)) (time % 1000 * 1000000)
    (template.length + 1) template
  if List.contains "@+STX".toList letter then t ++ ['0'] else t

def pathBelow (visit : Visit) : Text :=
  if visit.depth == 0 then [] else (visit.path.drop visit.start.length).dropWhile (· == '/')

def leading (path : Text) : Text :=
  match Text.splitLast '/' (withoutSlashes path) with
  | some (before, _) => before
  | none => ['.']

def fact (files : FileTree) (visit : Visit) (directive : Char) : Text :=
  let node := visit.node
  match directive with
  | 'p' => visit.path
  | 'f' => lastName visit.path
  | 'h' => leading visit.path
  | 'P' => pathBelow visit
  | 'H' => visit.start
  | 'd' => Text.ofNat visit.depth
  | 's' => Text.ofNat (sizeOf node)
  | 'm' => Nat.toDigits 8 node.attributes.mode
  | 'M' => kindLetter node :: Rights.toText node.attributes.mode
  | 'y' => [kindOf node]
  | 'Y' =>
      match files.lookup visit.path with
      | .ok (_, node) => [kindOf node]
      | .error .tooManyLinks => ['L']
      | .error _ => ['N']
  | 'l' =>
      match node with
      | .link target _ => target
      | _ => []
  | 'u' | 'g' => userName
  | 'U' | 'G' | 'D' => ['0']
  | 'n' => Text.ofNat (Listing.linkCount node)
  | 'k' => Text.ofNat (Listing.blocksOf node)
  | 'b' => Text.ofNat (blocksOf node)
  | 'i' => ['1']
  | 'S' => ['1']
  | 'F' => "overlay"
  | 't' | 'a' | 'c' =>
      let template : Text := "%a %b %e %H:%M:%S.%N0 %Y"
      let time := node.attributes.time
      Moment.format (Moment.ofSeconds (time / 1000 : Nat)) (time % 1000 * 1000000)
        (template.length + 1) template
  | _ => []

def fill (files : FileTree) (visit : Visit) : (fuel : Nat) → Text → Text
  | 0, _ => []
  | _, [] => []
  | fuel + 1, '%' :: '%' :: rest => '%' :: fill files visit fuel rest
  | fuel + 1, '%' :: rest =>
      let flags := rest.takeWhile (List.contains "-+ #0".toList ·)
      let after := rest.drop flags.length
      let digits := after.takeWhile Char.isDigit
      let (precision, after) : Option Nat × Text :=
        match after.drop digits.length with
        | '.' :: after =>
            let digits := after.takeWhile Char.isDigit
            (Text.digitsFrom? 0 digits, after.drop digits.length)
        | after => (none, after)
      let width := (Text.digitsFrom? 0 digits).getD 0
      let laidOut := fun (t : Text) =>
        let t := match precision with
          | some n => t.take n
          | none => t
        if List.contains flags '-' then alignLeft width t
        else if List.contains flags '0' then List.replicate (width - t.length) '0' ++ t
        else alignRight width t
      match after with
      | [] => '%' :: rest
      | c :: after =>
          if List.contains timeDirectives c then
            laidOut (timeText visit.node.attributes.time (after.headD ' ')) ++
              fill files visit fuel (after.drop 1)
          else if List.contains directives c then
            laidOut (fact files visit c) ++ fill files visit fuel after
          else '%' :: rest.take (rest.length - after.length) ++ fill files visit fuel after
  | fuel + 1, '\\' :: c :: rest =>
      if c == 'c' then []
      else if Rights.isOctalDigit c then
        let digits := ((c :: rest).take 3).takeWhile Rights.isOctalDigit
        Char.ofNat (Rights.octal digits % 256) ::
          fill files visit fuel ((c :: rest).drop digits.length)
      else
        let letters : List (Char × Nat) :=
          [('a', 7), ('b', 8), ('t', 9), ('n', 10), ('v', 11), ('f', 12), ('r', 13), ('\\', 92)]
        match letters.lookup c with
        | some n => Char.ofNat n :: fill files visit fuel rest
        | none => '\\' :: c :: fill files visit fuel rest
  | fuel + 1, c :: rest => c :: fill files visit fuel rest

def details (files : FileTree) (visit : Visit) : Text :=
  let node := visit.node
  let time := node.attributes.time
  let isRecent := time ≤ files.clock && files.clock < time + Listing.halfYear
  let template : Text := if isRecent then "%b %e %H:%M" else "%b %e  %Y"
  let moment :=
    Moment.format (Moment.ofSeconds (time / 1000 : Nat)) 0 (template.length + 1) template
  let target : Text :=
    match node with
    | .link target _ => " -> ".toList ++ target
    | _ => []
  Text.joinWith [' ']
    [alignRight 9 ['1'], alignRight 6 (Text.ofNat (Listing.blocksOf node)),
      kindLetter node :: Rights.toText node.attributes.mode,
      alignRight 3 (Text.ofNat (Listing.linkCount node)), alignLeft 8 userName,
      alignLeft 8 userName, alignRight 8 (Text.ofNat (sizeOf node)), moment,
      visit.path ++ target ++ ['\n']]

/-!
# Actions
-/

def printTo (file : Option Text) (t : Text) : Activity Unit := do
  match file with
  | none => print t
  | some path =>
      if path == "/dev/stdout" then print t
      else if path == "/dev/stderr" then writeTo .complaints t
      else
        match (← files).append path (Octets.bytes t) with
        | .ok files => setFiles files
        | .error _ => return ()

/-- Runs words as a program, in a directory if one is given; whether it succeeds. -/
def runWords (directory : Option Text) (words : List Text) : Activity Bool := do
  let here := (← files).workingDirectory
  match directory with
  | some path =>
      match (← files).enter path with
      | .ok files => setFiles files
      | .error _ => pure ()
  | none => pure ()
  let name := words.headD []
  let ending ← call (.plain name (words.drop 1) (← surroundings).environment)
  setFiles { (← files) with workingDirectory := here }
  match ending with
  | .notStarted error =>
      remark (quote name ++ ": " ++ reason error)
      return false
  | .ended (.code 0) => return true
  | _ => return false

def putIn (path : Text) : (fuel : Nat) → Text → Text
  | 0, _ => []
  | _, [] => []
  | fuel + 1, '\x7b' :: '\x7d' :: rest => path ++ putIn path fuel rest
  | fuel + 1, c :: rest => c :: putIn path fuel rest

def nameInside (path : Text) : Text :=
  let name := lastName path
  if name == "/" then name else ['.', '/'] ++ name

def runGathered (plan : Plan) (index : Nat) : Walking Unit := do
  let progress ← get
  match progress.gathered.lookup index, plan.gathered.lookup index with
  | some (directory, paths), some (words, isInside) =>
      set { progress with gathered := progress.gathered.filter (·.1 != index) }
      let place := if isInside then some directory else none
      if !(← runWords place (words ++ paths.reverse)) then setStatus 1
  | _, _ => return ()

def gatheringLimit : Nat := 120000

def gather (plan : Plan) (index : Nat) (isInside : Bool) (visit : Visit) : Walking Unit := do
  let directory := leading visit.path
  let path := if isInside then nameInside visit.path else visit.path
  match (← get).gathered.lookup index with
  | some (other, paths) =>
      let size := Text.total (paths.map fun t => t.length + 1)
      if gatheringLimit < size || (isInside && other != directory) then runGathered plan index
  | none => pure ()
  modify fun progress =>
    let paths := ((progress.gathered.lookup index).map (·.2)).getD []
    { progress with
      gathered := (index, directory, path :: paths) :: progress.gathered.filter (·.1 != index) }

def delete (visit : Visit) : Activity Bool := do
  if visit.path == "." then return true
  let files ← files
  let result := if visit.node.isDirectory then files.removeDirectory visit.path
    else files.removeFile visit.path
  match result with
  | .ok files =>
      setFiles files
      return true
  | .error error =>
      complain ("cannot delete " ++ quote visit.path ++ ": " ++ reason error)
      return false

def perform (plan : Plan) (visit : Visit) (action : Action) : Walking Bool := do
  match action with
  | .print ending file =>
      printTo file (visit.path ++ [ending])
      return true
  | .format template file =>
      printTo file (fill (← files) visit (template.length + 1) template)
      return true
  | .list =>
      print (details (← files) visit)
      return true
  | .delete => delete visit
  | .prune =>
      modify fun progress => { progress with isPruned := true }
      return true
  | .quit =>
      modify fun progress => { progress with isOver := true }
      return true
  | .run words isInside =>
      let path := if isInside then nameInside visit.path else visit.path
      let place := if isInside then some (leading visit.path) else none
      runWords place (words.map fun word => putIn path (word.length + 1) word)
  | .ask words =>
      let shown := words.filter fun (word : Text) => word != "\x7b\x7d"
      writeTo .complaints
        ("< ".toList ++ Text.joinWith [' '] shown ++ " ... ".toList ++ visit.path ++ " > ? ".toList)
      match ← intake 0 with
      | .ok intake =>
          let line := intake.text.takeWhile (· != '\n')
          leaveUnread (intake.text.drop (line.length + 1))
          if line.head? == some 'y' || line.head? == some 'Y' then
            runWords none (words.map fun word => putIn visit.path (word.length + 1) word)
          else return false
      | .error _ => return false
  | .gather index _ isInside =>
      gather plan index isInside visit
      return true

/-- Evaluates an expression for a file; nothing counts any more once the walk is over. -/
def evaluate (plan : Plan) (visit : Visit) : Expression → Walking Bool
  | .question question => do return answer (← files) visit question
  | .action action => do
      if (← get).isOver then return false
      perform plan visit action
  | .negated body => do return !(← evaluate plan visit body)
  | .both first second => do
      if ← evaluate plan visit first then evaluate plan visit second else return false
  | .either first second => do
      if ← evaluate plan visit first then return true else evaluate plan visit second
  | .list first second => do
      let _ ← evaluate plan visit first
      evaluate plan visit second

/-!
# Walking
-/

def lose (path : Text) (error : FileError) : Walking Unit := do
  complain (quote path ++ ": " ++ reason error)

/-- The node at a path, where links are followed or not; a broken link is not followed. -/
def nodeAt (follows : Bool) (path : Text) : Activity (Except FileError (Location × Node)) := do
  let files ← files
  if !follows then return files.lookupLink path
  match files.lookup path with
  | .ok found => return .ok found
  | .error _ => return files.lookupLink path

/--
Visits a path and what is below; `ancestors` are the directories on the way there.  `fuel`
bounds the depth.
-/
def visit (plan : Plan) : (fuel : Nat) → (ancestors : List (Location × Text)) → (start : Text) →
    (depth : Nat) → (path : Text) → Walking Unit
  | 0, _, _, _, _ => return ()
  | fuel + 1, ancestors, start, depth, path => do
      if (← get).isOver then return ()
      let route := plan.route
      let follows := if depth == 0 then route.followsOperands else route.followsAll
      match ← nodeAt follows path with
      | .error error => lose path error
      | .ok (location, node) =>
          match if node.isDirectory then ancestors.lookup location else none with
          | some other =>
              complain ("File system loop detected; " ++ quote path ++
                " is part of the same file system loop as " ++ quote other ++ ".")
          | none =>
              let visited : Visit := ⟨path, start, depth, location, node⟩
              modify fun progress => { progress with isPruned := false }
              if !route.goesUp && route.least ≤ depth then
                discard (evaluate plan visited plan.expression)
              let progress ← get
              let isDeepest := match route.most with
                | some most => most ≤ depth
                | none => false
              let isPruned := progress.isPruned && !route.goesUp
              if node.isDirectory && !isDeepest && !isPruned && !progress.isOver then
                match (← files).namesIn path with
                | .error error => lose path error
                | .ok names =>
                    let stem := if path.getLast? == some '/' then path else path ++ ['/']
                    for name in names do
                      visit plan fuel ((location, path) :: ancestors) start (depth + 1)
                        (stem ++ name)
              if route.goesUp && route.least ≤ depth then
                match ← nodeAt follows path with
                | .ok (location, node) =>
                    discard (evaluate plan { visited with location := location, node := node }
                      plan.expression)
                | .error error => lose path error

def depthLimit : Nat := 2048

def walkAll (plan : Plan) : Walking Unit := do
  for path in plan.paths do
    if path.isEmpty then lose path .notFound
    else visit plan depthLimit [] path 0 path
  for (index, _) in plan.gathered do runGathered plan index

end Walk

def find : Program := fun arguments => do
  let plan ← Walk.plan arguments
  for path in plan.targets do
    if path != "/dev/stdout" && path != "/dev/stderr" then
      match (← files).write path [] with
      | .ok files => setFiles files
      | .error error => fail 1 (quote path ++ ": " ++ reason error)
  let (_, _) ← (Walk.walkAll plan).run ⟨false, false, []⟩

end Program
end Shell
end StubAssist
