import StubAssist.FileTree

/-!
# Starting trees

What is there before anything happens: the directories, devices and programs that tools
expect to find, and the files of a working directory.
-/

namespace StubAssist

open Utf8 (Bytes)

namespace FileTree

def emptyDirectories (names : List Text) : List (Text × Node) :=
  names.map fun name => (name, .emptyDirectory)

def systemDirectories : List Text :=
  ["boot", "etc", "home", "media", "mnt", "opt", "run", "srv", "sys"]

def systemPrograms : List Text :=
  Text.splitBy (· == ' ')
    ("[ arch awk b2sum base32 base64 basename cat chmod cksum cmp comm cp cut dash date dd diff " ++
      "dirname du echo egrep env expand expr factor false fgrep find fmt fold grep groups head " ++
      "hostname id install join kill link ln logname ls mawk md5sum mkdir mkfifo mktemp mv nice nl nohup " ++
      "nproc numfmt od paste pathchk pr printenv printf ptx pwd readlink realpath rev rm rmdir " ++
      "sed seq setsid sh sha1sum sha224sum sha256sum sha384sum sha512sum shuf sleep sort split " ++
      "stat stdbuf sum sync tac tail tee test timeout touch tr true truncate tsort tty uname " ++
      "unexpand uniq unlink users wc which whoami xargs yes").toList

def programMark : Bytes := [0x7f, 0x45, 0x4c, 0x46]

def programFile (name : Text) : Node :=
  .file (programMark ++ Utf8.encode name) ⟨0o755, 0⟩

/-- When everything begins, in milliseconds since 1970. -/
def beginning : Nat := 1767225600000

def systemDirectory (entries : List (Text × Node)) : Node :=
  .directory entries ⟨0o755, 0⟩

def sharedDirectory : Node :=
  .directory [] ⟨0o1777, 0⟩

def systemLink (target : Text) : Node :=
  .link target ⟨0o777, 0⟩

/-- The devices, some of which are names for what a process has open. -/
def devices : List (Text × Node) :=
  [("null", .device .null), ("zero", .device .zero), ("full", .device .full),
    ("random", .device .zero), ("urandom", .device .zero), ("fd", systemLink "/proc/self/fd"),
    ("stdin", systemLink "/proc/self/fd/0"), ("stdout", systemLink "/proc/self/fd/1"),
    ("stderr", systemLink "/proc/self/fd/2"), ("shm", sharedDirectory)]

def openAtStart : Node :=
  systemDirectory [("0", .device .null), ("1", .device .null), ("2", .device .null)]

def base : FileTree where
  root := systemDirectory
    (("dev", systemDirectory devices) ::
      ("proc", systemDirectory [("self", systemDirectory [("fd", openAtStart)])]) ::
      ("usr", systemDirectory
        (("bin", systemDirectory (systemPrograms.map fun name => (name, programFile name))) ::
          emptyDirectories ["games", "include", "lib", "lib64", "libexec", "local", "sbin", "share",
            "src"])) ::
      ("bin", systemLink "usr/bin") :: ("lib", systemLink "usr/lib") ::
      ("lib64", systemLink "usr/lib64") :: ("sbin", systemLink "usr/sbin") ::
      ("root", .directory [] ⟨0o700, 0⟩) :: ("tmp", sharedDirectory) ::
      ("var", systemDirectory (("tmp", sharedDirectory) :: emptyDirectories ["lib", "log"])) ::
      ("work", .directory [] ⟨0o755, beginning⟩) :: emptyDirectories systemDirectories)
  workingDirectory := ["work"]
  mask := 0o22
  clock := beginning

/--
Adds a file with the directories that it needs; a path that ends in a slash adds
a directory only.
-/
def add (tree : FileTree) (path : Text) (bytes : Bytes) : FileTree :=
  if wantsDirectory path then (tree.makeDirectories path).2
  else
    let tree := (tree.makeDirectories ((FilePath.parent? path).getD [])).2
    (tree.write path bytes).toOption.getD tree

/-- The base tree with files in its working directory; bad paths are left out. -/
def populated (files : List (Text × Bytes)) : FileTree :=
  files.foldl (fun tree (path, bytes) => tree.add path bytes) base

end FileTree

/-!
# Changes
-/

namespace Node

mutual

def files (here : Location) : Node → List (Location × Bytes)
  | directory entries _ => filesIn here entries
  | file bytes _ => [(here, bytes)]
  | link _ _ => []
  | device _ => []

def filesIn (here : Location) : List (Text × Node) → List (Location × Bytes)
  | [] => []
  | (name, node) :: rest => node.files (here ++ [name]) ++ filesIn here rest

end

end Node

namespace FileTree

def files (tree : FileTree) : List (Text × Bytes) :=
  match tree.node? tree.workingDirectory with
  | some node => (node.files []).map fun (names, bytes) => (Text.joinWith ['/'] names, bytes)
  | none => []

/-- The files of the working directory that `older` has not or not like this. -/
def changesSince (tree older : FileTree) : List (Text × Bytes) :=
  let before := older.files
  tree.files.filter fun (path, bytes) => before.lookup path != some bytes

end FileTree
end StubAssist
