import StubAssist.FileTree
import StubAssist.Text.Lines

/-!
# Source buffers

A file under edit.  Edits change the buffer only; saving writes it back.
-/

namespace StubAssist

structure SourceBuffer where
  path : Text
  content : Text
deriving DecidableEq, Repr

namespace Text

/--
The text before line `index` and the text from its start on.  A line that would
begin where the text ends is no line, except the first.
-/
def splitAtLine? : (index : Nat) → Text → Option (Text × Text)
  | 0, t => some ([], t)
  | _ + 1, [] => none
  | index + 1, c :: rest =>
      let split :=
        if c = '\n' then (if rest.isEmpty then none else splitAtLine? index rest)
        else splitAtLine? (index + 1) rest
      split.map fun (before, after) => (c :: before, after)

/--
Inserts at the start of line `index`.  Past the last line the insertion goes to
the end, after a line feed if the last line lacks its own.
-/
def insertAtLine (t : Text) (index : Nat) (inserted : Text) : Text :=
  match splitAtLine? index t with
  | some (before, after) => before ++ inserted ++ after
  | none => t ++ (if t.isEmpty || endsInNewline t then [] else ['\n']) ++ inserted

end Text

namespace SourceBuffer

def lineAt (buffer : SourceBuffer) (index : Nat) : Option Text :=
  (Text.lines buffer.content)[index]?

def insertAtLine (buffer : SourceBuffer) (index : Nat) (inserted : Text) : SourceBuffer :=
  { buffer with content := Text.insertAtLine buffer.content index inserted }

def open? (tree : FileTree) (path : Text) : Except Text SourceBuffer :=
  match tree.readText path with
  | .ok content => .ok ⟨path, content⟩
  | .error error => .error ("failed to read '" ++ path ++ "': " ++ error.message)

def makeParents (tree : FileTree) (path : Text) : Except FileError Unit × FileTree :=
  match FilePath.parent? path with
  | none => (.ok (), tree)
  | some parent => tree.makeDirectories parent

/-- Writes the buffer to its path; parents that were made stay if that fails. -/
def save (buffer : SourceBuffer) (tree : FileTree) : Except Text Unit × FileTree :=
  match makeParents tree buffer.path with
  | (.error error, tree) => (.error error.message, tree)
  | (.ok (), tree) =>
      match tree.write buffer.path (Utf8.encode buffer.content) with
      | .ok tree => (.ok (), tree)
      | .error error =>
          (.error ("failed to write '" ++ buffer.path ++ "': " ++ error.message), tree)

end SourceBuffer
end StubAssist
