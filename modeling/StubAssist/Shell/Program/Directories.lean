import StubAssist.Shell.Calendar
import StubAssist.Shell.Rights
import StubAssist.Shell.Program.Paths

/-!
# Making and marking files

Making and removing directories, and changing the times and the rights of files.
-/

namespace StubAssist
namespace Shell
namespace Program

open Activity

def attempt (complaint : Text) (result : Except FileError FileTree) : Activity Bool := do
  match result with
  | .ok files =>
      setFiles files
      return true
  | .error error =>
      complain (complaint ++ ": " ++ reason error)
      return false

/-!
# Directories
-/

def waysTo (path : Text) : List Text :=
  let names := FileTree.namesOf path
  let start : Text := if path.head? == some '/' then ['/'] else []
  (List.range names.length).map fun i => start ++ Text.joinWith ['/'] (names.take (i + 1))

def rightsOf (given : Given) : Activity (Option (List Rights.Change)) := do
  match given.value? 'm' with
  | none => return none
  | some t =>
      match Rights.parse? t with
      | some changes => return some changes
      | none => fail 1 ("invalid mode " ++ quote t)

def mkdir : Program := fun arguments => do
  let forms : OptionForms :=
    { letters := "pm:vZ"
      words := [("mode", 'm', .yes), ("parents", 'p', .no), ("verbose", 'v', .no)]
      isOrdered := false }
  let given ← given 1 forms arguments
  demandOperand given.operands
  let changes ← rightsOf given
  let make := fun (path : Text) (isLast : Bool) => do
    let files ← files
    let made ← attempt ("cannot create directory " ++ quote path) (files.makeDirectory path)
    if made then
      if given.has 'v' then
        printLine ((← surroundings).name ++ ": created directory " ++ quoteName path)
      match isLast, changes, (← get).files.resolve path with
      | true, some changes, .ok location =>
          modify fun scene =>
            { scene with
              files := scene.files.setAttributes location fun attributes =>
                { attributes with mode := Rights.apply true scene.files.mask changes 0o777 } }
      | _, _, _ => pure ()
    return made
  for path in given.operands do
    if !given.has 'p' then discard (make path true)
    else
      if path.isEmpty then
        complain ("cannot create directory " ++ quote path ++ ": " ++ reason .notFound)
      let mut goesOn := true
      let ways := waysTo path
      for (way, index) in ways.zipIdx do
        if goesOn then
          let isLast := index + 1 == ways.length
          match (← files).lookup way with
          | .ok (_, node) =>
              if !node.isDirectory then
                goesOn := false
                let error := if isLast then FileError.alreadyExists else .notADirectory
                complain ("cannot create directory " ++ quote way ++ ": " ++ reason error)
          | .error _ =>
              let made ← make way isLast
              goesOn := made

def rmdir : Program := fun arguments => do
  let forms : OptionForms :=
    { letters := "pv"
      words := [("ignore-fail-on-non-empty", 'I', .no), ("parents", 'p', .no),
        ("verbose", 'v', .no)]
      isOrdered := false }
  let given ← given 1 forms arguments
  demandOperand given.operands
  for operand in given.operands do
    let names := FileTree.namesOf operand
    let outer := (waysTo operand).dropLast.reverse
    let paths := operand :: if given.has 'p' then outer else []
    let mut goesOn := true
    for (path, index) in paths.zipIdx do
      if goesOn then
        if given.has 'v' then
          printLine ((← surroundings).name ++ ": removing directory, " ++ quoteName path)
        let files ← files
        let result : Except FileError FileTree :=
          if index == 0 && names.getLast? == some ['.'] then .error .invalidArgument
          else files.removeDirectory path
        match result with
        | .ok files => setFiles files
        | .error error =>
            goesOn := false
            if !(error == .directoryNotEmpty && given.has 'I') then
              let what : Text :=
                if index == 0 then "failed to remove " else "failed to remove directory "
              complain (what ++ quoteName path ++ ": " ++ reason error)

/-!
# Times
-/

def timeOfDigits? (now : Int) (t : Text) : Option Int :=
  let (digits, seconds) := match Text.splitFirst '.' t with
    | some (digits, seconds) => (digits, seconds)
    | none => (t, "00".toList)
  let size := digits.length
  if !(size == 8 || size == 10 || size == 12) || seconds.length != 2 ||
      !(digits ++ seconds).all Char.isDigit then none
  else
    let value := fun (t : Text) => (Text.digitsFrom? 0 t).getD 0
    let tail := digits.drop (size - 8)
    let head := digits.take (size - 8)
    let year : Int :=
      if size == 12 then value head
      else if size == 10 then (if value head < 69 then 2000 + value head else 1900 + value head)
      else (Moment.ofSeconds now).year
    let part := fun (i : Nat) => value ((tail.drop i).take 2)
    let moment : Moment := ⟨year, part 0, part 2, part 4, part 6, value seconds⟩
    if moment.isValid then some moment.toSeconds else none

def touch : Program := fun arguments => do
  let forms : OptionForms :=
    { letters := "acd:fhmr:t:"
      words := [("time", 'T', .yes), ("no-create", 'c', .no), ("date", 'd', .yes),
        ("reference", 'r', .yes), ("no-dereference", 'h', .no)]
      isOrdered := false }
  let given ← given 1 forms arguments
  let now ← now
  let seconds : Int := now / 1000
  let mut time := now
  match given.value? 'r' with
  | some path =>
      match (← files).lookup path with
      | .ok (_, node) => time := node.attributes.time
      | .error error =>
          fail 1 ("failed to get attributes of " ++ quoteName path ++ ": " ++ reason error)
  | none => pure ()
  match given.value? 't' with
  | some t =>
      match timeOfDigits? seconds t with
      | some n => time := (n * 1000).toNat
      | none => fail 1 ("invalid date format " ++ quote t)
  | none => pure ()
  match given.value? 'd' with
  | some t =>
      match Moment.parse? seconds t with
      | some n => time := (n * 1000).toNat
      | none => fail 1 ("invalid date format " ++ quote t)
  | none => pure ()
  if given.operands.isEmpty then misuse 1 "missing file operand"
  let changesTime := given.has 'm' || !given.has 'a'
  for path in given.operands do
    let files ← files
    let stamp := fun (files : FileTree) (location : Location) =>
      files.setAttributes location fun attributes =>
        if changesTime then { attributes with time := time } else attributes
    let complaint := "cannot touch " ++ quoteName path ++ ": "
    if path == "-" then pure ()
    else
      match if given.has 'h' then files.lookupLink path else files.lookup path with
      | .ok (location, _) => setFiles (stamp files location)
      | .error .notFound =>
          if FileTree.wantsDirectory path && !given.has 'c' then
            complain ("setting times of " ++ quoteName path ++ ": " ++ reason .notFound)
          else if !given.has 'c' then
            match files.append path [] with
            | .ok files =>
                match files.resolve path with
                | .ok location => setFiles (stamp files location)
                | .error _ => setFiles files
            | .error error => complain (complaint ++ reason error)
      | .error error => complain (complaint ++ reason error)

/-!
# Rights
-/

def isRightsOption (argument : Text) : Bool :=
  match argument with
  | '-' :: c :: _ => List.contains "rwxXstugoa,+=01234567".toList c
  | _ => false

def showRights (mode : Nat) : Text :=
  Rights.toOctal mode ++ " (".toList ++ Rights.toText mode ++ [')']

def below (files : FileTree) : (fuel : Nat) → (path : Text) → List Text
  | 0, path => [path]
  | fuel + 1, path =>
      match files.lookupLink path with
      | .ok (_, .directory entries _) =>
          let start := if path.getLast? == some '/' then path else path ++ ['/']
          path :: entries.flatMap fun (name, _) => below files fuel (start ++ name)
      | _ => [path]

def chmod : Program := fun arguments => do
  let forms : OptionForms :=
    { letters := "Rcfv"
      words := [("changes", 'c', .no), ("recursive", 'R', .no), ("silent", 'f', .no),
        ("quiet", 'f', .no), ("verbose", 'v', .no), ("reference", 'F', .yes)]
      isOrdered := false }
  let first := arguments.find? isRightsOption
  let given ← given 1 forms (arguments.filter fun argument => !isRightsOption argument)
  let reference ←
    match given.value? 'F' with
    | none => pure none
    | some path =>
        match (← files).lookup path with
        | .ok (_, node) => pure (some node.attributes.mode)
        | .error error =>
            fail 1 ("failed to get attributes of " ++ quoteName path ++ ": " ++ reason error)
  let (description, operands) : Text × List Text :=
    match first, reference with
    | some t, _ => (t, given.operands)
    | none, some _ => ([], given.operands)
    | none, none => (given.operands.headD [], given.operands.drop 1)
  if operands.isEmpty then
    if first.isNone && !given.operands.isEmpty then
      misuse 1 ("missing operand after " ++ quote description)
    else misuse 1 "missing operand"
  let changes ←
    match reference with
    | some mode => pure [⟨Rights.all, .assign, .bits mode, Rights.all⟩]
    | none =>
        match Rights.parse? description with
        | some changes => pure changes
        | none => misuse 1 ("invalid mode: " ++ quote description)
  for operand in operands do
    let files ← files
    let paths := if given.has 'R' then below files FileTree.pathLimit operand else [operand]
    for path in paths do
      match files.lookup path with
      | .error error =>
          setStatus 1
          if !given.has 'f' then
            if (files.lookupLink path).isOk then
              remark ("cannot operate on dangling symlink " ++ quoteName path)
            else remark ("cannot access " ++ quoteName path ++ ": " ++ reason error)
      | .ok (location, node) =>
          let old := node.attributes.mode
          let new := Rights.apply node.isDirectory files.mask changes old
          modify fun scene =>
            { scene with
              files := scene.files.setAttributes location fun attributes =>
                { attributes with mode := new } }
          if given.has 'v' && old == new then
            printLine ("mode of " ++ quoteName path ++ " retained as " ++ showRights old)
          else if old != new && (given.has 'v' || given.has 'c') then
            printLine ("mode of " ++ quoteName path ++ " changed from " ++ showRights old ++
              " to " ++ showRights new)

end Program
end Shell
end StubAssist
