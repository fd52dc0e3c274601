import StubAssist.Shell.Program.Directories

/-!
# Removing files

Files are removed one by one, after a question if that is wanted, and directories after
all that is in them.
-/

namespace StubAssist
namespace Shell
namespace Program

open Activity

/-!
# Asking
-/

/-- Does something with the answers that are left to read, once the first one is asked for,
and there may be more than those. -/
abbrev Asking (α : Type) := StateT (Option (Text × Bool)) Activity α

def confirm (question : Text) : Asking Bool := do
  let name := (← surroundings).name
  writeTo .complaints (name ++ ": " ++ question ++ "? ")
  let (answers, hasMore) ←
    match ← get with
    | some answers => pure answers
    | none => pure ((← flow ['-']).toOption.getD ([], false))
  let line := answers.takeWhile (· != '\n')
  if hasMore && line.length == answers.length then continueForever
  set (some (answers.drop (line.length + 1), hasMore))
  return line.head? == some 'y' || line.head? == some 'Y'

def asking {α : Type} (action : Asking α) : Activity α := do
  let (result, answers) ← action.run none
  match answers with
  | some (rest, _) => leaveUnread rest
  | none => pure ()
  return result

/-!
# Removing
-/

structure Removal where
  isForced : Bool
  asksEach : Bool
  isDeep : Bool
  takesEmpty : Bool
  isTold : Bool
deriving DecidableEq, Repr

namespace Removal

def kind : Node → Text
  | .directory _ _ => "directory"
  | .file [] _ => "regular empty file"
  | .file _ _ => "regular file"
  | .link _ _ => "symbolic link"
  | .device _ => "character special file"

def refuse (path : Text) (error : FileError) : Asking Bool := do
  complain ("cannot remove " ++ quoteName path ++ ": " ++ reason error)
  return false

def allows (removal : Removal) (question : Text) : Asking Bool := do
  if removal.asksEach then confirm question else return true

def take (removal : Removal) (path : Text) (node : Node) : Asking Bool := do
  let files ← files
  match if node.isDirectory then files.removeDirectory path else files.removeFile path with
  | .ok files =>
      setFiles files
      if removal.isTold then
        printLine ((if node.isDirectory then "removed directory ".toList else "removed ".toList) ++
          quoteName path)
      return true
  | .error error => refuse path error

mutual

def remove (removal : Removal) : (fuel : Nat) → (path : Text) → Asking Bool
  | 0, _ => return false
  | fuel + 1, path => do
      match (← files).lookupLink path with
      | .error error =>
          if removal.isForced && (error == .notFound || error == .notADirectory) then return true
          refuse path error
      | .ok (_, node) =>
          match node with
          | .directory [] _ =>
              if !removal.isDeep && !removal.takesEmpty then refuse path .isADirectory
              else if ← removal.allows ("remove directory " ++ quoteName path) then
                removal.take path node
              else return false
          | .directory entries _ =>
              if !removal.isDeep then
                refuse path (if removal.takesEmpty then .directoryNotEmpty else .isADirectory)
              else if !(← removal.allows ("descend into directory " ++ quoteName path)) then
                return false
              else
                let start := if path.getLast? == some '/' then path else path ++ ['/']
                if !(← removal.removeAll fuel (entries.map fun (name, _) => start ++ name)) then
                  return false
                if ← removal.allows ("remove directory " ++ quoteName path) then
                  removal.take path node
                else return false
          | _ =>
              if ← removal.allows ("remove " ++ kind node ++ ' ' :: quoteName path) then
                removal.take path node
              else return false
termination_by structural fuel => fuel

/-- Removes what some paths lead to; tells whether all are gone. -/
def removeAll (removal : Removal) : (fuel : Nat) → List Text → Asking Bool
  | 0, _ => return false
  | _ + 1, [] => return true
  | fuel + 1, path :: rest => do
      let isGone ← removal.remove fuel path
      let areGone ← removal.removeAll fuel rest
      return isGone && areGone
termination_by structural fuel => fuel

end

def fuel : Nat := Nat.pow 2 20

/-- Removes what an operand names, unless that is never to be removed. -/
def removeOperand (removal : Removal) (operand : Text) : Asking Unit := do
  let name := lastName operand
  let isDirectory := (← files).isDirectory operand
  if removal.isDeep && (name == "." || name == "..") && isDirectory then
    complain ("refusing to remove '.' or '..' directory: skipping " ++ quoteName operand)
  else if removal.isDeep && name == "/" then
    complain (if operand == "/" then "it is dangerous to operate recursively on '/'"
      else "it is dangerous to operate recursively on " ++ quoteName operand ++ " (same as '/')")
    remark "use --no-preserve-root to override this failsafe"
  else discard (removal.remove fuel operand)

end Removal

def questionKind? (option : GivenOption) : Option Char :=
  match option.key, option.value with
  | 'W', none => some 'i'
  | 'W', some value =>
      let kinds : List (Text × Char) :=
        [("never", 'f'), ("no", 'f'), ("none", 'f'), ("once", 'I'), ("always", 'i'), ("yes", 'i')]
      match kinds.filter fun kind => value.isPrefixOf kind.1 with
      | [] => none
      | (_, letter) :: others => if others.all (·.2 == letter) then some letter else none
  | key, _ => some key

def rm : Program := fun arguments => do
  let forms : OptionForms :=
    { letters := "dfirvIR"
      words := [("force", 'f', .no), ("interactive", 'W', .maybe), ("one-file-system", 'x', .no),
        ("no-preserve-root", 'N', .no), ("preserve-root", 'P', .maybe), ("recursive", 'r', .no),
        ("dir", 'd', .no), ("verbose", 'v', .no)]
      isOrdered := false }
  let given ← given 1 forms arguments
  for option in given.options do
    if (questionKind? option).isNone then
      remark ("invalid argument " ++ quote (option.value.getD []) ++ " for '--interactive'")
      writeTo .complaints
        "Valid arguments are:\n  - 'never', 'no', 'none'\n  - 'once'\n  - 'always', 'yes'\n"
      hint
      exit 1
  let questions := (given.options.filterMap questionKind?).filter (List.contains "fiI".toList ·)
  let isForced := questions.getLast? == some 'f'
  if given.operands.isEmpty then
    if isForced then exit 0 else misuse 1 "missing operand"
  let isDeep := given.has 'r' || given.has 'R'
  let removal : Removal :=
    { isForced := isForced
      asksEach := questions.getLast? == some 'i'
      isDeep := isDeep
      takesEmpty := given.has 'd'
      isTold := given.has 'v' }
  asking do
    let count := given.operands.length
    let asksOnce := questions.getLast? == some 'I' && (isDeep || 3 < count)
    let noun : Text := if count == 1 then " argument" else " arguments"
    let manner : Text := if isDeep then " recursively" else []
    let goesOn ←
      if asksOnce then confirm ("remove " ++ Text.ofNat count ++ noun ++ manner) else pure true
    if goesOn then
      for operand in given.operands do removal.removeOperand operand

def unlink : Program := fun arguments => do
  let given ← given 1 ⟨[], [], true⟩ arguments
  demandOperand given.operands
  refuseExtra 1 1 given.operands
  for path in given.operands do
    discard (attempt ("cannot unlink " ++ quoteName path) ((← files).removeFile path))

end Program
end Shell
end StubAssist
