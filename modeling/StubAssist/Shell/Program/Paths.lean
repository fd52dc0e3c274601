import StubAssist.Shell.Program

/-!
# Paths

The parts of paths, and what they lead to.
-/

namespace StubAssist
namespace Shell
namespace Program

open Activity

def endOf (given : Given) : Text :=
  if given.has 'z' then ['\x00'] else ['\n']

def withoutSlashes (path : Text) : Text :=
  let trimmed := (path.reverse.dropWhile (· == '/')).reverse
  if trimmed.isEmpty && !path.isEmpty then ['/'] else trimmed

def lastName (path : Text) : Text :=
  let trimmed := withoutSlashes path
  if trimmed == "/" then trimmed else (trimmed.reverse.takeWhile (· != '/')).reverse

def directoryOf (path : Text) : Text :=
  let trimmed := withoutSlashes path
  if trimmed == "/" then trimmed
  else
    let before := (trimmed.reverse.dropWhile (· != '/')).reverse
    if before.isEmpty then ['.'] else withoutSlashes before

def withoutEnding (ending name : Text) : Text :=
  if ending.isSuffixOf name && name != ending then name.take (name.length - ending.length)
  else name

def basename : Program := fun arguments => do
  let forms : OptionForms :=
    { letters := "as:z"
      words := [("multiple", 'a', .no), ("suffix", 's', .yes), ("zero", 'z', .no)]
      isOrdered := true }
  let given ← given 1 forms arguments
  demandOperand given.operands
  let isMultiple := given.has 'a' || given.has 's'
  if !isMultiple then refuseExtra 1 2 given.operands
  let (paths, ending) :=
    if isMultiple then (given.operands, (given.value? 's').getD [])
    else (given.operands.take 1, (given.operands.drop 1).headD [])
  for path in paths do print (withoutEnding ending (lastName path) ++ endOf given)

def dirname : Program := fun arguments => do
  let given ← given 1 ⟨"z", [("zero", 'z', .no)], true⟩ arguments
  demandOperand given.operands
  for path in given.operands do print (directoryOf path ++ endOf given)

def pwd : Program := fun arguments => do
  let forms : OptionForms :=
    { letters := "LP"
      words := [("logical", 'L', .no), ("physical", 'P', .no)]
      isOrdered := false }
  let given ← given 1 forms arguments
  if !given.operands.isEmpty then remark "ignoring non-option arguments"
  printLine (FileTree.pathOf (← files).workingDirectory)

/-!
# Resolving paths
-/

inductive Demand where
  | all
  | allButLast
  | nothing
deriving DecidableEq, Repr

def locationByNames (files : FileTree) (path : Text) : Location :=
  let start := if path.head? == some '/' then [] else files.workingDirectory
  (FileTree.namesOf path).foldl (fun found (name : Text) =>
    if name == "." then found
    else if name == ".." then found.dropLast
    else found ++ [name]) start

/-- Where a path leads; what does not exist may count by its name alone. -/
def resolved (files : FileTree) (demand : Demand) (path : Text) : Except FileError Location :=
  match files.resolve path with
  | .ok location =>
      if demand == .all && (files.node? location).isNone then .error .notFound else .ok location
  | .error error =>
      if demand == .nothing && error == .notFound && !path.isEmpty then
        let names := FileTree.namesOf path
        let known := (List.range (names.length + 1)).reverse.findSome? fun count =>
          let before := Text.joinWith ['/'] (names.take count)
          let before := if path.head? == some '/' then '/' :: before
            else if before.isEmpty then "." else before
          match files.lookup before with
          | .ok (location, _) => some (location, count)
          | .error _ => none
        match known with
        | some (location, count) =>
            .ok ((names.drop count).foldl (fun found (name : Text) =>
              if name == "." then found
              else if name == ".." then found.dropLast
              else found ++ [name]) location)
        | none => .error error
      else .error error

def demand (given : Given) (default : Demand) : Demand :=
  match (given.last? "emEf").map (·.key) with
  | some 'e' => .all
  | some 'm' => .nothing
  | some 'E' | some 'f' => .allButLast
  | _ => default

def readlink : Program := fun arguments => do
  let forms : OptionForms :=
    { letters := "efmnqsvz"
      words := [("canonicalize", 'f', .no), ("canonicalize-existing", 'e', .no),
        ("canonicalize-missing", 'm', .no), ("no-newline", 'n', .no), ("quiet", 'q', .no),
        ("silent", 's', .no), ("verbose", 'v', .no), ("zero", 'z', .no)]
      isOrdered := false }
  let given ← given 1 forms arguments
  demandOperand given.operands
  let resolves := "efm".toList.any given.has
  for path in given.operands do
    let files ← files
    let found : Except FileError Text :=
      if resolves then
        (resolved files (demand given .allButLast) path).map FileTree.pathOf
      else
        match files.lookupLink path with
        | .ok (_, .link target _) => .ok target
        | .ok _ => .error .invalidArgument
        | .error error => .error error
    match found with
    | .ok t =>
        print (t ++ if given.has 'n' && given.operands.length == 1 then [] else endOf given)
    | .error error =>
        setStatus 1
        if given.has 'v' then remark (about path error)

def relativePath (base location : Location) : Text :=
  let shared := ((base.zip location).takeWhile fun (a, b) => a == b).length
  let names := List.replicate (base.length - shared) ("..".toList) ++ location.drop shared
  if names.isEmpty then ['.'] else Text.joinWith ['/'] names

def realpath : Program := fun arguments => do
  let forms : OptionForms :=
    { letters := "eEmqszLP"
      words := [("canonicalize-existing", 'e', .no), ("canonicalize-missing", 'm', .no),
        ("quiet", 'q', .no), ("strip", 's', .no), ("no-symlinks", 's', .no), ("zero", 'z', .no),
        ("relative-to", 'R', .yes), ("relative-base", 'B', .yes)]
      isOrdered := false }
  let given ← given 1 forms arguments
  demandOperand given.operands
  let place := fun (path : Text) => do
    let files ← files
    let found := resolved files (demand given .allButLast) path
    return (if given.has 's' then found.map fun _ => locationByNames files path else found)
  let mut bases := []
  for key in ['R', 'B'] do
    let base ←
      match given.value? key with
      | none => pure none
      | some path =>
          match ← place path with
          | .ok location => pure (some location)
          | .error error => fail 1 (about path error)
    bases := bases ++ [base]
  let relativeTo := (bases.headD none).or (bases.getLastD none)
  let relativeBase := bases.getLastD none
  for path in given.operands do
    match ← place path with
    | .error error =>
        setStatus 1
        let topic := if path.isEmpty then quoteName path else quoteTopic path
        if !given.has 'q' then remark (topic ++ ": " ++ reason error)
    | .ok location =>
        let isInside := (relativeBase.map (·.isPrefixOf location)).getD true
        let shown := match relativeTo with
          | some base => if isInside then relativePath base location else FileTree.pathOf location
          | none => FileTree.pathOf location
        print (shown ++ endOf given)

end Program
end Shell
end StubAssist
