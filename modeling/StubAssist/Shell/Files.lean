import StubAssist.FileTree.Start

/-!
# Files for tools

What tools do with files beyond reading and writing them: links as such, rights,
removing, moving, and changes of directory.
-/

namespace StubAssist

open Utf8 (Bytes)

/-!
# Nodes
-/

namespace Node

def attributes : Node → Attributes
  | directory _ attributes => attributes
  | file _ attributes => attributes
  | link _ attributes => attributes
  | device _ => ⟨0o666, 0⟩

def withAttributes (attributes : Attributes) : Node → Node
  | directory entries _ => directory entries attributes
  | file bytes _ => file bytes attributes
  | link target _ => link target attributes
  | device kind => .device kind

def isExecutable : Node → Bool
  | file _ attributes => attributes.mode &&& 0o111 != 0
  | _ => false

def erase : Location → Node → Node
  | [], node => node
  | [name], directory entries attributes =>
      directory (entries.filter fun entry => entry.1 != name) attributes
  | name :: names, directory entries attributes =>
      match entries.lookup name with
      | some child => directory (setEntry name (erase names child) entries) attributes
      | none => directory entries attributes
  | _ :: _, node => node

mutual

def renamed (f : Text → Text) : Node → Node
  | directory entries attributes => directory (renamedIn f entries) attributes
  | file bytes attributes => file bytes attributes
  | link target attributes => link (f target) attributes
  | device kind => .device kind

def renamedIn (f : Text → Text) : List (Text × Node) → List (Text × Node)
  | [] => []
  | (name, node) :: rest => (f name, node.renamed f) :: renamedIn f rest

end

end Node

/-!
# Trees
-/

namespace FileTree

def programIn? (bytes : Bytes) : Option Text :=
  if programMark.isPrefixOf bytes then Utf8.decode? (bytes.drop programMark.length) else none

def pathOf (location : Location) : Text :=
  '/' :: Text.joinWith ['/'] location

def erase (tree : FileTree) (location : Location) : FileTree :=
  { tree with root := Node.erase location tree.root }.stamped location.dropLast

def renamed (tree : FileTree) (f : Text → Text) : FileTree :=
  { tree with root := tree.root.renamed f, workingDirectory := tree.workingDirectory.map f }

def lookupLink (tree : FileTree) (path : Text) : Except FileError (Location × Node) := do
  if wantsDirectory path then tree.lookup path
  else
    let location ← tree.locate false path
    match tree.node? location with
    | none => throw .notFound
    | some node => return (location, node)

def append (tree : FileTree) (path : Text) (bytes : Bytes) : Except FileError FileTree :=
  tree.store path true bytes

def namesIn (tree : FileTree) (path : Text) : Except FileError (List Text) := do
  match ← tree.lookup path with
  | (_, .directory entries _) =>
      return (entries.map (·.1)).mergeSort fun a b => !decide (b < a)
  | _ => throw .notADirectory

def setAttributes (tree : FileTree) (location : Location) (f : Attributes → Attributes) :
    FileTree :=
  match tree.node? location with
  | some node => tree.put location (node.withAttributes (f node.attributes))
  | none => tree

/-!
# Removing and moving
-/

def removeFile (tree : FileTree) (path : Text) : Except FileError FileTree := do
  match ← tree.lookupLink path with
  | (_, .directory _ _) => throw .isADirectory
  | (location, _) => return tree.erase location

def removeDirectory (tree : FileTree) (path : Text) : Except FileError FileTree := do
  match ← tree.lookupLink path with
  | (location, .directory [] _) => return tree.erase location
  | (_, .directory _ _) => throw .directoryNotEmpty
  | _ => throw .notADirectory

def removeAll (tree : FileTree) (path : Text) : Except FileError FileTree := do
  let (location, _) ← tree.lookupLink path
  return tree.erase location

def makeLink (tree : FileTree) (target path : Text) : Except FileError FileTree := do
  let location ← tree.locate false path
  if wantsDirectory path then throw .notFound
  match tree.node? location with
  | none => return tree.put location (.link target ⟨0o777, tree.clock⟩)
  | some _ => throw .alreadyExists

def move (tree : FileTree) (source target : Text) : Except FileError FileTree := do
  let (here, node) ← tree.lookupLink source
  let there ← tree.locate false target
  if here == there then return tree
  if here.isPrefixOf there then throw .invalidArgument
  match node, tree.node? there with
  | .directory _ _, some (.directory [] _) => pure ()
  | .directory _ _, some (.directory _ _) => throw .directoryNotEmpty
  | .directory _ _, some _ => throw .notADirectory
  | _, some (.directory _ _) => throw .isADirectory
  | .directory _ _, none => pure ()
  | _, none => if wantsDirectory target then throw .notADirectory
  | _, some _ => pure ()
  return (tree.erase here).put there node

def copy (tree : FileTree) (source target : Text) : Except FileError FileTree := do
  let (_, node) ← tree.lookup source
  return tree.put (← tree.resolve target) node

def enter (tree : FileTree) (path : Text) : Except FileError FileTree := do
  match ← tree.lookup path with
  | (location, .directory _ _) => return { tree with workingDirectory := location }
  | _ => throw .notADirectory

end FileTree
end StubAssist
