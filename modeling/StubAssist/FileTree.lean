import StubAssist.FilePath
import StubAssist.Text.Utf8

/-!
# File trees

Files as a value: a tree of named nodes and a working directory from which
relative paths start.  An operation answers with the new tree or with the reason
why a file system would refuse it.  Paths are followed name by name from the root
of the tree.
-/

namespace StubAssist

open Utf8 (Bytes)

inductive FileError where
  | notFound
  | permissionDenied
  | alreadyExists
  | notADirectory
  | isADirectory
  | nameTooLong
  | argumentsTooLong
  | noSpace
  | directoryNotEmpty
  | tooManyLinks
  | invalidArgument
  | badDescriptor
  | busy
  | brokenPipe
  | nulInName
  | notUtf8
deriving DecidableEq, Repr

namespace FileError

def description : FileError → Text × Option Nat
  | notFound => ("No such file or directory", some 2)
  | permissionDenied => ("Permission denied", some 13)
  | alreadyExists => ("File exists", some 17)
  | notADirectory => ("Not a directory", some 20)
  | isADirectory => ("Is a directory", some 21)
  | nameTooLong => ("File name too long", some 36)
  | argumentsTooLong => ("Argument list too long", some 7)
  | noSpace => ("No space left on device", some 28)
  | directoryNotEmpty => ("Directory not empty", some 39)
  | tooManyLinks => ("Too many levels of symbolic links", some 40)
  | invalidArgument => ("Invalid argument", some 22)
  | badDescriptor => ("Bad file descriptor", some 9)
  | busy => ("Device or resource busy", some 16)
  | brokenPipe => ("Broken pipe", some 32)
  | nulInName => ("file name contained an unexpected NUL byte", none)
  | notUtf8 => ("stream did not contain valid UTF-8", none)

def message (error : FileError) : Text :=
  match error.description with
  | (name, none) => name
  | (name, some number) => name ++ " (os error " ++ Text.ofNat number ++ ")"

end FileError

inductive Device where
  | null
  | zero
  | full
deriving DecidableEq, Repr

structure Attributes where
  /-- Who may do what, in the bits of three octal digits, and one more in front. -/
  mode : Nat
  /-- When it was changed last, in milliseconds. -/
  time : Nat
deriving DecidableEq, Repr

inductive Node where
  | directory (entries : List (Text × Node)) (attributes : Attributes)
  | file (bytes : Bytes) (attributes : Attributes)
  | link (target : Text) (attributes : Attributes)
  | device (device : Device)

abbrev Location := List Text

namespace Node

def isDirectory : Node → Bool
  | directory _ _ => true
  | _ => false

def emptyDirectory : Node :=
  directory [] ⟨0o755, 0⟩

def get? : Node → Location → Option Node
  | node, [] => some node
  | directory entries _, name :: names => (entries.lookup name).bind fun child => get? child names
  | _, _ :: _ => none

def setEntry (name : Text) (node : Node) (entries : List (Text × Node)) : List (Text × Node) :=
  if (entries.lookup name).isSome then
    entries.map fun entry => if entry.1 == name then (name, node) else entry
  else entries ++ [(name, node)]

/-- Puts a node at a place, in the stead of what is there; the way to it exists. -/
def put (new : Node) : Location → Node → Node
  | [], _ => new
  | name :: names, directory entries attributes =>
      let child := (entries.lookup name).getD emptyDirectory
      directory (setEntry name (put new names child) entries) attributes
  | _ :: _, node => node

end Node

structure FileTree where
  root : Node
  workingDirectory : Location
  /-- The rights that new nodes do not get. -/
  mask : Nat
  clock : Nat

namespace FileTree

def node? (tree : FileTree) (location : Location) : Option Node :=
  tree.root.get? location

/-- Gives the directory at a location the time of the clock. -/
def stamped (tree : FileTree) (location : Location) : FileTree :=
  match tree.node? location with
  | some (.directory entries attributes) =>
      let node := Node.directory entries { attributes with time := tree.clock }
      { tree with root := Node.put node location tree.root }
  | _ => tree

/-- Puts a node at a location; one that is new there is a change to its directory. -/
def put (tree : FileTree) (location : Location) (node : Node) : FileTree :=
  let after := { tree with root := Node.put node location tree.root }
  if (tree.node? location).isSome then after else after.stamped location.dropLast

/-!
# Resolving paths
-/

def nameLimit : Nat := 255

def pathLimit : Nat := 4095

def linkLimit : Nat := 40

def namesOf (path : Text) : List Text :=
  (Text.splitBy (· == '/') path).filter (!·.isEmpty)

/--
The location that names lead to from a node; only the last one may be missing.
The trail holds the names up to the node and the directories that they are in, and a
link at the end is followed only if `followsLast`.
-/
def walk (root : Node) (followsLast : Bool) : (links : Nat) → (trail : List (Text × Node)) →
    (here : Node) → List Text → Except FileError Location
  | _, trail, _, [] => .ok (trail.map (·.1)).reverse
  | links, trail, .directory entries attributes, name :: names =>
      let here := Node.directory entries attributes
      if name == ['.'] then walk root followsLast links trail here names
      else if name == ['.', '.'] then
        match trail with
        | [] => walk root followsLast links [] here names
        | (_, parent) :: trail => walk root followsLast links trail parent names
      else if nameLimit < Text.byteSize name then .error .nameTooLong
      else
        let found := (name :: trail.map (·.1)).reverse
        match entries.lookup name, links with
        | none, _ => if names.isEmpty then .ok found else .error .notFound
        | some (.link target _), links =>
            if names.isEmpty && !followsLast then .ok found
            else
              match links with
              | 0 => .error .tooManyLinks
              | links + 1 =>
                  if target.head? == some '/' then
                    walk root followsLast links [] root (namesOf target ++ names)
                  else walk root followsLast links trail here (namesOf target ++ names)
        | some child, links => walk root followsLast links ((name, here) :: trail) child names
  | _, _, _, _ :: _ => .error .notADirectory
termination_by links _ _ names => (links, names.length)

/-- The location that a path leads to, where a link at the end may count as itself. -/
def locate (tree : FileTree) (followsLast : Bool) (path : Text) : Except FileError Location :=
  if path.isEmpty then .error .notFound
  else if List.contains path '\x00' then .error .nulInName
  else if pathLimit < Text.byteSize path then .error .nameTooLong
  else
    let start := if path.head? == some '/' then [] else tree.workingDirectory
    walk tree.root followsLast linkLimit [] tree.root (start ++ namesOf path)

/-- The location that a path leads to; only its last name may be missing. -/
def resolve (tree : FileTree) (path : Text) : Except FileError Location :=
  tree.locate true path

/-- A path that ends in a slash can only mean a directory. -/
def wantsDirectory (path : Text) : Bool :=
  path.getLast? == some '/'

def lookup (tree : FileTree) (path : Text) : Except FileError (Location × Node) := do
  let location ← tree.resolve path
  match tree.node? location with
  | none => throw .notFound
  | some node =>
      if wantsDirectory path && !node.isDirectory then throw .notADirectory
      return (location, node)

def exists? (tree : FileTree) (path : Text) : Bool :=
  (tree.lookup path).isOk

def isDirectory (tree : FileTree) (path : Text) : Bool :=
  match tree.lookup path with
  | .ok (_, node) => node.isDirectory
  | .error _ => false

/-!
# Reading and writing
-/

/-- As much as anyone could want of a device without end. -/
def zeros : Bytes :=
  List.replicate (Nat.pow 2 18) 0

def bytesOf : Node → Except FileError Bytes
  | .directory _ _ => .error .isADirectory
  | .file bytes _ => .ok bytes
  | .link _ _ => .error .notFound
  | .device .null => .ok []
  | .device _ => .ok zeros

def read (tree : FileTree) (path : Text) : Except FileError Bytes := do
  bytesOf (← tree.lookup path).2

def readText (tree : FileTree) (path : Text) : Except FileError Text := do
  match Utf8.decode? (← tree.read path) with
  | some t => return t
  | none => throw .notUtf8

def rights (tree : FileTree) (mode : Nat) : Nat :=
  mode &&& (0o7777 ^^^ tree.mask)

/--
Writes bytes to a file, after those that it has if `keeps`.  A missing file is
made, but never one that is asked for as a directory.
-/
def store (tree : FileTree) (path : Text) (keeps : Bool) (bytes : Bytes) :
    Except FileError FileTree := do
  let location ← tree.resolve path
  if wantsDirectory path then throw .isADirectory
  match tree.node? location with
  | none => return tree.put location (.file bytes ⟨tree.rights 0o666, tree.clock⟩)
  | some (.directory _ _) => throw .isADirectory
  | some (.file old attributes) =>
      let attributes := { attributes with time := tree.clock }
      return tree.put location (.file (if keeps then old ++ bytes else bytes) attributes)
  | some (.device .full) => if bytes.isEmpty then return tree else throw .noSpace
  | some _ => return tree

def write (tree : FileTree) (path : Text) (bytes : Bytes) : Except FileError FileTree :=
  tree.store path false bytes

/-!
# Directories
-/

def makeDirectory (tree : FileTree) (path : Text) : Except FileError FileTree := do
  let location ← tree.resolve path
  match tree.node? location with
  | none => return tree.put location (.directory [] ⟨tree.rights 0o777, tree.clock⟩)
  | some _ => throw .alreadyExists

/-- What came of making a directory that may be there already. -/
def settled (tree : FileTree) (path : Text) (error : FileError) :
    Except FileError Unit × FileTree :=
  if error == .alreadyExists && tree.isDirectory path then (.ok (), tree)
  else (.error error, tree)

/--
Makes the first of some directories, each of which is in the next one.  The outer
ones are made only when it could not be made for want of them, and stay even if
it cannot be made then.
-/
def makeChain (tree : FileTree) : List Text → Except FileError Unit × FileTree
  | [] => (.ok (), tree)
  | path :: outer =>
      match tree.makeDirectory path with
      | .ok tree => (.ok (), tree)
      | .error .notFound =>
          match tree.makeChain outer with
          | (.error error, tree) => (.error error, tree)
          | (.ok (), tree) =>
              match tree.makeDirectory path with
              | .ok tree => (.ok (), tree)
              | .error error => tree.settled path error
      | .error error => tree.settled path error

/-- Makes a directory with all missing parents; for one whose path is too long none is made. -/
def makeDirectories (tree : FileTree) (path : Text) : Except FileError Unit × FileTree :=
  if Text.byteSize path ≤ pathLimit || (FilePath.parent? path).isNone then
    tree.makeChain (FilePath.ancestors path)
  else tree.makeChain [path]

end FileTree
end StubAssist
