import StubAssist.Shell.Program.Removal

/-!
# Copying, moving and linking

Programs that put something at a path that is also, or was, at another one.  The last
operand is the directory that the others go into, or the new path of a single one.
-/

namespace StubAssist
namespace Shell
namespace Program

open Activity

/-!
# Targets
-/

inductive Target where
  | path (path : Text)
  | directory (path : Text)
deriving DecidableEq, Repr

def targetWords : List (Text × Char × Valued) :=
  [("backup", 'B', .maybe), ("no-target-directory", 'T', .no), ("suffix", 'S', .yes),
    ("target-directory", 't', .yes), ("verbose", 'v', .no), ("force", 'f', .no),
    ("interactive", 'i', .no)]

def inDirectory (directory name : Text) : Text :=
  if directory.getLast? == some '/' then directory ++ name else directory ++ '/' :: name

def targetOf (given : Given) : Activity (List Text × Target) := do
  let operands := given.operands
  let files ← files
  if given.has 't' && given.has 'T' then
    fail 1 "cannot combine --target-directory (-t) and --no-target-directory (-T)"
  match given.value? 't' with
  | some directory =>
      if operands.isEmpty then misuse 1 "missing file operand"
      match files.lookup directory with
      | .ok (_, node) =>
          if !node.isDirectory then
            fail 1 ("target directory " ++ quoteName directory ++ ": " ++ reason .notADirectory)
      | .error error => fail 1 ("target directory " ++ quoteName directory ++ ": " ++ reason error)
      return (operands, .directory directory)
  | none =>
      match operands with
      | [] => misuse 1 "missing file operand"
      | [source] => misuse 1 ("missing destination file operand after " ++ quoteName source)
      | sources =>
          let last := sources.getLast?.getD []
          if given.has 'T' then
            if 2 < sources.length then
              misuse 1 ("extra operand " ++ quoteName ((sources.drop 2).headD []))
            return (sources.dropLast, .path last)
          else if files.isDirectory last then return (sources.dropLast, .directory last)
          else if 2 < sources.length then
            let error := match files.lookup last with
              | .error error => error
              | .ok _ => .notADirectory
            fail 1 ("target " ++ quoteName last ++ ": " ++ reason error)
          else return (sources.dropLast, .path last)

def Target.pathFor (target : Target) (source : Text) : Text :=
  match target with
  | .path whole => whole
  | .directory outer =>
      let name := lastName source
      if name == ".." then outer else inDirectory outer name

inductive Backup where
  | none
  | simple (suffix : Text)
  | numbered
  | existing (suffix : Text)
deriving DecidableEq, Repr

def backupOf (given : Given) : Activity Backup := do
  let suffix := (given.value? 'S').getD ['~']
  match given.last? "bB" with
  | none => return if given.has 'S' then .existing suffix else .none
  | some option =>
      let kinds : List (Text × Backup) :=
        [("none", .none), ("off", .none), ("simple", .simple suffix), ("never", .simple suffix),
          ("existing", .existing suffix), ("nil", .existing suffix), ("numbered", .numbered),
          ("t", .numbered)]
      match option.value with
      | none => return .existing suffix
      | some value =>
          match (kinds.filter fun kind => value.isPrefixOf kind.1).head? with
          | some (_, kind) => return kind
          | none =>
              remark ("invalid argument " ++ quote value ++ " for 'backup type'")
              writeTo .complaints ("Valid arguments are:\n  - 'none', 'off'\n" ++
                "  - 'simple', 'never'\n  - 'existing', 'nil'\n  - 'numbered', 't'\n").toList
              hint
              exit 1

def freeNumber (files : FileTree) (path : Text) : (fuel n : Nat) → Nat
  | 0, n => n
  | fuel + 1, n =>
      if (files.lookupLink (path ++ ".~" ++ Text.ofNat n ++ ['~'])).isOk then
        freeNumber files path fuel (n + 1)
      else n

def Backup.path? (backup : Backup) (files : FileTree) (path : Text) : Option Text :=
  let n := freeNumber files path (Nat.pow 2 16) 1
  let numbered := path ++ ".~" ++ Text.ofNat n ++ ['~']
  match backup with
  | .none => Option.none
  | .simple suffix => some (path ++ suffix)
  | .numbered => some numbered
  | .existing suffix => some (if 1 < n then numbered else path ++ suffix)

def transferText (source target : Text) (kept : Option Text) : Text :=
  quoteName source ++ " -> " ++ quoteName target ++
    match kept with
    | some path => " (backup: " ++ quoteName path ++ [')']
    | none => []

/-!
# Copying
-/

inductive FollowLinks where
  | never
  | operands
  | always
deriving DecidableEq, Repr

inductive Overwriting where
  | always
  | never
  | ifOlder
  | asks
deriving DecidableEq, Repr

structure Copying where
  isDeep : Bool
  follows : FollowLinks
  overwriting : Overwriting
  backup : Backup
  isTold : Bool
  keepsTime : Bool
  keepsMode : Bool
  makesLinks : Bool
  /-- Makes second names of the same files instead, which here are copies. -/
  makesNames : Bool
  removesFirst : Bool
  copiesBytes : Bool

namespace Copying

def refuse (t : Text) : Asking Unit :=
  complain t

def attributes (copying : Copying) (files : FileTree) (old : Attributes) : Attributes :=
  { mode := if copying.keepsMode then old.mode else files.rights old.mode
    time := if copying.keepsTime then old.time else files.clock }

/-- Moves what is at a path out of the way, if it is to be kept; tells where to. -/
def keepOld (copying : Copying) (path : Text) : Asking (Option Text) := do
  let files ← files
  match copying.backup.path? files path with
  | none => return none
  | some kept =>
      match files.move path kept with
      | .ok files =>
          setFiles files
          return some kept
      | .error _ => return none

def put (copying : Copying) (source target : Text) (node : Node) : Asking Unit := do
  let files ← files
  let refusal := fun (error : FileError) =>
    refuse ("cannot create regular file " ++ quoteName target ++ ": " ++ reason error)
  match node with
  | .link path attributes =>
      match (files.removeFile target).toOption.getD files |>.makeLink path target with
      | .ok files =>
          setFiles files
          if copying.keepsTime then
            match files.locate false target with
            | .ok location => setFiles (files.setAttributes location fun _ => attributes)
            | .error _ => pure ()
      | .error error =>
          refuse ("cannot create symbolic link " ++ quoteName target ++ ": " ++ reason error)
  | _ =>
      if copying.makesLinks then
        if source.head? != some '/' && directoryOf target != "." then
          refuse (quoteTopic target ++
            ": can make relative symbolic links only in current directory")
        else
          match files.makeLink source target with
          | .ok files => setFiles files
          | .error error =>
              refuse ("cannot create symbolic link " ++ quoteName target ++ " to " ++
                quoteName source ++ ": " ++ reason error)
      else if copying.makesNames && (files.lookupLink target).isOk then
        refuse ("cannot create hard link " ++ quoteName target ++ " to " ++ quoteName source ++
          ": " ++ reason .alreadyExists)
      else
        let isNew := !(files.lookupLink target).isOk
        if (files.lookup target matches .error .notFound) && !isNew then
          refuse ("not writing through dangling symlink " ++ quoteName target)
        else if FileTree.wantsDirectory target && isNew then
          refusal .notADirectory
        else
          let bytes := if copying.copiesBytes then (FileTree.bytesOf node).toOption.getD [] else []
          let result :=
            if !copying.copiesBytes && !isNew then .ok files else files.write target bytes
          match result with
          | .error error => refusal error
          | .ok changed =>
              setFiles changed
              match changed.resolve target with
              | .error _ => pure ()
              | .ok location =>
                  let new := copying.attributes files node.attributes
                  setFiles (changed.setAttributes location fun old =>
                    { mode := if isNew || copying.keepsMode then new.mode else old.mode
                      time := if copying.keepsTime then new.time else old.time })

def mayReplace (copying : Copying) (node old : Node) (target : Text) : Asking Bool := do
  match copying.overwriting with
  | .always => return true
  | .never => return false
  | .ifOlder => return old.attributes.time < node.attributes.time
  | .asks =>
      if ← confirm ("overwrite " ++ quoteName target) then return true
      setStatus 1
      return false

mutual

def copy (copying : Copying) : (fuel : Nat) → (isOperand : Bool) → (source target : Text) →
    Asking Unit
  | 0, _, _, _ => return ()
  | fuel + 1, isOperand, source, target => do
      let files ← files
      let follows := copying.follows == .always || (copying.follows == .operands && isOperand)
      match if follows then files.lookup source else files.lookupLink source with
      | .error error => refuse ("cannot stat " ++ quoteName source ++ ": " ++ reason error)
      | .ok (here, node) =>
          let old := files.lookup target
          let isSame := match old with
            | .ok (there, _) => here == there && !copying.makesLinks
            | .error _ => false
          if node.isDirectory && !copying.isDeep then
            refuse ("-r not specified; omitting directory " ++ quoteName source)
          else if isSame && !(copying.removesFirst && (files.lookupLink target matches .ok (_, .link ..))) then
            refuse (quoteName source ++ " and " ++ quoteName target ++ " are the same file")
          else
            match node, old with
            | .directory entries attributes, .ok (_, .directory _ _) =>
                copying.enter fuel here (entries.map (·.1)) source target attributes none
            | .directory _ _, .ok _ =>
                refuse ("cannot overwrite non-directory " ++ quoteName target ++
                  " with directory " ++ quoteName source)
            | .directory entries attributes, .error _ =>
                match files.makeDirectory target with
                | .error error =>
                    refuse ("cannot create directory " ++ quoteName target ++ ": " ++ reason error)
                | .ok files =>
                    setFiles files
                    if copying.isTold then printLine (transferText source target none)
                    copying.enter fuel here (entries.map (·.1)) source target attributes
                      (files.resolve target).toOption
            | _, .ok (_, .directory _ _) =>
                refuse ("cannot overwrite directory " ++ quoteName target ++
                  " with non-directory")
            | _, .ok (_, existing) =>
                if ← copying.mayReplace node existing target then
                  let kept ← copying.keepOld target
                  if copying.removesFirst && kept.isNone then
                    match (← Activity.files).removeFile target with
                    | .ok files =>
                        setFiles files
                        if copying.isTold then printLine ("removed " ++ quoteName target)
                    | .error _ => pure ()
                  if copying.isTold then printLine (transferText source target kept)
                  copying.put source target node
            | _, .error error =>
                if error == .notADirectory then
                  refuse ("cannot stat " ++ quoteName target ++ ": " ++ reason error)
                else
                  let before ← get
                  let status := (← getThe Scene).status
                  set before
                  setStatus 0
                  copying.put source target node
                  if (← getThe Scene).status == 0 then
                    setStatus status
                    if copying.isTold then printLine (transferText source target none)
termination_by structural fuel => fuel

/-- Copies what is in a directory into another one, which gets its attributes if it is new. -/
def enter (copying : Copying) : (fuel : Nat) → (here : Location) → (names : List Text) →
    (source target : Text) → Attributes → (new : Option Location) → Asking Unit
  | 0, _, _, _, _, _, _ => return ()
  | fuel + 1, here, names, source, target, attributes, new => do
      let isInside := match (← files).resolve target with
        | .ok there => here.isPrefixOf there
        | .error _ => false
      if isInside then
        refuse ("cannot copy a directory, " ++ quoteName source ++ ", into itself, " ++
          quoteName target)
      copying.copyAll fuel names source target
      match new with
      | none => pure ()
      | some location =>
          let files ← files
          setFiles (files.setAttributes location fun _ => copying.attributes files attributes)
termination_by structural fuel => fuel

def copyAll (copying : Copying) : (fuel : Nat) → (names : List Text) → (source target : Text) →
    Asking Unit
  | 0, _, _, _ => return ()
  | _ + 1, [], _, _ => return ()
  | fuel + 1, name :: names, source, target => do
      copying.copy fuel false (inDirectory source name) (inDirectory target name)
      copying.copyAll fuel names source target
termination_by structural fuel => fuel

end

def copyWithParents (copying : Copying) (source directory : Text) : Asking Unit := do
  let names := FileTree.namesOf source
  for count in (List.range names.length).drop 1 do
    let outer := Text.joinWith ['/'] (names.take count)
    let path := inDirectory directory outer
    if !(← files).exists? path then
      match (← files).makeDirectory path with
      | .ok files =>
          setFiles files
          if copying.isTold then printLine (outer ++ " -> " ++ path)
      | .error error =>
          refuse ("cannot make directory " ++ quoteName path ++ ": " ++ reason error)
  copying.copy Removal.fuel true source (inDirectory directory (Text.joinWith ['/'] names))

end Copying

def preserved (given : Given) : Activity (Bool × Bool) := do
  let known : List Text :=
    ["mode", "timestamps", "ownership", "links", "context", "xattr", "all"]
  let mut keepsMode := given.has 'p' || given.has 'a'
  let mut keepsTime := keepsMode
  for option in given.options do
    if option.key == 'K' then
      match option.value with
      | none =>
          keepsMode := true
          keepsTime := true
      | some value =>
          for item in partsAt ',' value do
            if !known.contains item then
              remark ("invalid argument " ++ quote item ++ " for '--preserve'")
              writeTo .complaints ("Valid arguments are:\n" ++
                String.ofList (known.flatMap fun name => "  - '" ++ name ++ "'\n")).toList
              hint
              exit 1
            if item == "mode" || item == "all" then keepsMode := true
            if item == "timestamps" || item == "all" then keepsTime := true
  return (keepsMode, keepsTime)

def copyWords : List (Text × Char × Valued) :=
  [("archive", 'a', .no), ("attributes-only", 'A', .no), ("copy-contents", 'C', .no),
    ("debug", 'D', .no), ("dereference", 'L', .no), ("link", 'l', .no), ("no-clobber", 'n', .no),
    ("no-dereference", 'P', .no), ("no-preserve", 'k', .yes), ("one-file-system", 'x', .no),
    ("parents", 'm', .no), ("preserve", 'K', .maybe), ("recursive", 'r', .no),
    ("remove-destination", 'e', .no), ("sparse", 'w', .yes), ("reflink", 'y', .maybe),
    ("strip-trailing-slashes", 'j', .no), ("symbolic-link", 's', .no), ("update", 'u', .maybe),
    ("context", 'Z', .maybe)]

def overwritingOf (given : Given) (isMoving : Bool) : Overwriting :=
  match given.last? (if isMoving then "infu" else "inu") with
  | some ⟨'n', _⟩ => .never
  | some ⟨'i', _⟩ => .asks
  | some ⟨'u', value⟩ =>
      if value == some "none".toList then .never
      else if value == some "all".toList then .always
      else .ifOlder
  | _ => .always

def cp : Program := fun arguments => do
  let forms : OptionForms :=
    { letters := "abdfHilLnprst:uvxPRS:TZ"
      words := targetWords ++ copyWords
      isOrdered := false }
  let given ← given 1 forms arguments
  let (keepsMode, keepsTime) ← preserved given
  let backup ← backupOf given
  let (sources, target) ← targetOf given
  let isDeep := given.has 'r' || given.has 'R' || given.has 'a'
  let follows := match (given.last? "HLPda").map (·.key) with
    | some 'H' => FollowLinks.operands
    | some 'L' => .always
    | some _ => .never
    | none => if isDeep then .never else .always
  let copying : Copying :=
    { isDeep := isDeep
      follows := follows
      overwriting := overwritingOf given false
      backup := backup
      isTold := given.has 'v'
      keepsTime := keepsTime
      keepsMode := keepsMode
      makesLinks := given.has 's'
      makesNames := given.has 'l'
      removesFirst := given.has 'e'
      copiesBytes := !given.has 'A' }
  asking do
    let mut done : List Text := []
    for source in sources do
      if done.contains source && target matches .directory _ then
        remark ("warning: source file " ++ quoteName source ++ " specified more than once")
      else
        done := source :: done
        let source := if given.has 'j' then withoutSlashes source else source
        match given.has 'm', target with
        | true, .directory directory => copying.copyWithParents source directory
        | true, .path _ => misuse 1 "with --parents, the destination must be a directory"
        | false, _ =>
            copying.copy Removal.fuel true source (target.pathFor source)

/-!
# Moving
-/

def moveTo (copying : Copying) (source target : Text) : Asking Unit := do
  let files ← files
  let source' := withoutSlashes source
  let refusal := fun (error : FileError) =>
    complain ("cannot move " ++ quoteName source ++ " to " ++ quoteName target ++ ": " ++
      reason error)
  let found := if FileTree.wantsDirectory source then
      match files.lookupLink source', files.lookup source with
      | .ok (_, .link _ _), _ => .error .notADirectory
      | _, found => found
    else files.lookupLink source
  match found with
  | .error error => complain ("cannot stat " ++ quoteName source ++ ": " ++ reason error)
  | .ok (here, node) =>
      let target' := if node.isDirectory then withoutSlashes target else target
      let old := files.lookupLink target'
      let isFirmlyThere := (old.toOption.map fun (there, _) => there == here).getD false
      if isFirmlyThere then
        complain (quoteName source ++ " and " ++ quoteName target ++ " are the same file")
      else
        match node, old with
        | .directory .., .ok (_, .directory ..) | .directory .., .error _ => pure ()
        | .directory .., .ok _ =>
            complain ("cannot overwrite non-directory " ++ quoteName target ++
              " with directory " ++ quoteName source)
        | _, .ok (_, .directory ..) =>
            complain ("cannot overwrite directory " ++ quoteName target ++ " with non-directory")
        | _, _ => pure ()
        let isRefused := match node.isDirectory, old with
          | isDirectory, .ok (_, other) => isDirectory != other.isDirectory
          | _, .error _ => false
        if !isRefused then
          let mayReplace ←
            match old with
            | .ok (_, other) =>
                if copying.overwriting == .never then
                  complain ("not replacing " ++ quoteName target)
                  pure false
                else copying.mayReplace node other target
            | .error _ => pure true
          if mayReplace then
            let kept ←
              match old with
              | .ok (_, .directory ..) => pure none
              | .ok _ => copying.keepOld target'
              | .error _ => pure none
            let files ← Activity.files
            if here.isPrefixOf files.workingDirectory then refusal .busy
            else
              match files.move source' target' with
              | .ok files =>
                  setFiles files
                  if copying.isTold then printLine ("renamed " ++ transferText source target kept)
              | .error .invalidArgument =>
                  complain ("cannot move " ++ quoteName source ++
                    " to a subdirectory of itself, " ++ quoteName target)
              | .error .directoryNotEmpty =>
                  complain ("cannot overwrite " ++ quoteName target ++ ": " ++
                    reason .directoryNotEmpty)
              | .error error => refusal error

def mv : Program := fun arguments => do
  let more : List (Text × Char × Valued) :=
    [("no-clobber", 'n', .no), ("no-copy", 'C', .no), ("debug", 'D', .no),
      ("strip-trailing-slashes", 'j', .no), ("update", 'u', .maybe), ("context", 'Z', .no)]
  let forms : OptionForms :=
    { letters := "bfint:uvS:TZ"
      words := targetWords ++ more
      isOrdered := false }
  let given ← given 1 forms arguments
  let backup ← backupOf given
  let (sources, target) ← targetOf given
  let copying : Copying :=
    { isDeep := true
      follows := .never
      overwriting := overwritingOf given true
      backup := backup
      isTold := given.has 'v'
      keepsTime := true
      keepsMode := true
      makesLinks := false
      makesNames := false
      removesFirst := false
      copiesBytes := true }
  asking do
    for source in sources do
      let source := if given.has 'j' then withoutSlashes source else source
      moveTo copying source (target.pathFor source)

/-!
# Linking
-/

structure Linking where
  isSymbolic : Bool
  isRelative : Bool
  isForced : Bool
  asks : Bool
  backup : Backup
  isTold : Bool

def Linking.link (linking : Linking) (source target : Text) : Asking Unit := do
  let files ← files
  let kind : Text := if linking.isSymbolic then "symbolic link " else "hard link "
  let found := files.lookupLink source
  let refusal := fun (error : FileError) =>
    complain ("failed to create " ++ kind ++ quoteName target ++
      (if linking.isSymbolic && source.isEmpty then " -> ''".toList else []) ++ ": " ++
      reason error)
  let isBad ←
    if linking.isSymbolic then pure false
    else
      match found with
      | .error error =>
          complain ("failed to access " ++ quoteName source ++ ": " ++ reason error)
          pure true
      | .ok (_, .directory ..) =>
          complain (quoteTopic source ++ ": hard link not allowed for directory")
          pure true
      | .ok _ => pure false
  let old := files.lookupLink target
  let replaces := linking.isForced || linking.asks || linking.backup != .none
  let isSame := match found, old with
    | .ok (here, _), .ok (there, _) => here == there
    | _, _ => false
  if isBad then pure ()
  else if replaces && old.toOption.any (·.2.isDirectory) then
    complain (quoteTopic target ++ ": cannot overwrite directory")
  else if replaces && isSame then
    complain (quoteName source ++ " and " ++ quoteName target ++ " are the same file")
  else
    let goesOn ←
      if linking.asks && old.isOk then
        if ← confirm ("replace " ++ quoteName target) then pure true
        else
          setStatus 1
          pure false
      else pure true
    if goesOn then
      let keeping := if old.isOk then linking.backup.path? files target else none
      let cleared := if !old.isOk || !replaces then files
        else
          match keeping with
          | some kept => (files.move target kept).toOption.getD files
          | none => (files.removeFile target).toOption.getD files
      let path :=
        if linking.isRelative then
          match resolved files .nothing source, resolved files .nothing (directoryOf target) with
          | .ok location, .ok start => relativePath start location
          | _, _ => source
        else source
      let result : Except FileError FileTree :=
        if linking.isSymbolic then
          if source.isEmpty then .error .notFound else cleared.makeLink path target
        else
          match found, cleared.locate false target with
          | .ok (_, node), .ok location =>
              if (cleared.node? location).isSome then .error .alreadyExists
              else if FileTree.wantsDirectory target then .error .notFound
              else .ok (cleared.put location node)
          | .error error, _ => .error error
          | _, .error error => .error error
      match result with
      | .error error => refusal error
      | .ok files =>
          setFiles files
          if linking.isTold then
            printLine (quoteName target ++ (if linking.isSymbolic then " -> " else " => ").toList ++
              quoteName path ++
              match keeping with
              | some kept => " (backup: " ++ quoteName kept ++ [')']
              | none => [])

def ln : Program := fun arguments => do
  let more : List (Text × Char × Valued) :=
    [("directory", 'd', .no), ("logical", 'L', .no), ("no-dereference", 'n', .no),
      ("physical", 'P', .no), ("relative", 'r', .no), ("symbolic", 's', .no)]
  let forms : OptionForms :=
    { letters := "bdfinrst:vFLPS:T"
      words := targetWords ++ more
      isOrdered := false }
  let given ← given 1 forms arguments
  let backup ← backupOf given
  let last := given.operands.getLast?.getD []
  let isLink := (← files).lookupLink last matches .ok (_, .link ..)
  let (sources, target) ←
    match given.operands with
    | [_] =>
        if given.has 't' || given.has 'T' then targetOf given
        else pure (given.operands, .directory ['.'])
    | _ =>
        if given.has 'n' && isLink && given.operands.length == 2 && !given.has 't' then
          pure (given.operands.dropLast, .path last)
        else targetOf given
  let answer := (given.last? "fi").map (·.key)
  let linking : Linking :=
    { isSymbolic := given.has 's'
      isRelative := given.has 'r'
      isForced := answer == some 'f'
      asks := answer == some 'i'
      backup := backup
      isTold := given.has 'v' }
  asking do
    for source in sources do linking.link source (target.pathFor source)

end Program
end Shell
end StubAssist
