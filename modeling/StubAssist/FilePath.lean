import StubAssist.Text

/-!
# File paths

A path is a text with slashes.  Its parent is found without looking at any file:
trailing slashes and single dots count for nothing, and the part before the last
name keeps its own spelling.
-/

namespace StubAssist
namespace FilePath

/-- Whether the path starts with a single dot that stands for the current directory. -/
def startsAtDot : Text → Bool
  | ['.'] => true
  | '.' :: '/' :: _ => true
  | _ => false

def startLength (path : Text) : Nat :=
  if path.head? == some '/' || startsAtDot path then 1 else 0

def dropEmptyNames : Text → Text
  | '/' :: rest => dropEmptyNames rest
  | '.' :: '/' :: rest => dropEmptyNames rest
  | ['.'] => []
  | rest => rest

/-- A reversed path body without its last name and the slash before it. -/
def dropName (reversed : Text) : Text :=
  (reversed.dropWhile (· != '/')).drop 1

def parent? (path : Text) : Option Text :=
  let start := path.take (startLength path)
  let body := dropEmptyNames (path.drop (startLength path)).reverse
  if body.isEmpty then
    if start == ['.'] then some [] else none
  else
    some (start ++ (dropEmptyNames (dropName body)).reverse)

/-- The parents of a path that name something, at most `fuel` of them. -/
def parents : (fuel : Nat) → Text → List Text
  | 0, _ => []
  | fuel + 1, path =>
      match parent? path with
      | some (c :: rest) => (c :: rest) :: parents fuel (c :: rest)
      | _ => []

/-- A path and its parents, from the inside out, without the root. -/
def ancestors (path : Text) : List Text :=
  (path :: parents path.length path).filter fun ancestor => (parent? ancestor).isSome

/-- The directory that a file is in; the current one is a single dot. -/
def directory (path : Text) : Text :=
  match parent? path with
  | none => ['.']
  | some [] => ['.']
  | some parent => parent

end FilePath
end StubAssist
