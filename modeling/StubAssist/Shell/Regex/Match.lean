import StubAssist.Shell.Regex.Positions

/-!
# Matches

The first match of an expression in a text, and of those that start there the longest
one.  Expressions with references are tried out; all others are followed through sets of
positions.
-/

namespace StubAssist
namespace Shell
namespace Regex

structure Match where
  start : Nat
  stop : Nat
  groups : Captures
deriving DecidableEq, Repr

namespace Match

def span? (found : Match) (index : Nat) : Option (Nat × Nat) :=
  if index == 0 then some (found.start, found.stop) else found.groups.lookup index

end Match

/-!
# Trying out
-/

def depth : Regex → Nat
  | .empty | .oneOf _ | .meets _ | .reference _ => 1
  | .group _ body => depth body + 1
  | .sequence first second | .either first second => depth first + depth second + 1
  | .repetition least most body => depth body + max least (most.getD 0) + 1

def sameCharacter (ignoresCase : Bool) (a b : Char) : Bool :=
  a == b || (ignoresCase && a.toLower == b.toLower)

def endOfSame? (subject : Subject) (ignoresCase : Bool) (start stop position : Nat) : Option Nat :=
  let size := stop - start
  let isSame := (List.range size).all fun i =>
    match subject.characters[start + i]?, subject.characters[position + i]? with
    | some a, some b => sameCharacter ignoresCase a b
    | _, _ => false
  if isSame then some (position + size) else none

abbrev Path := Nat × Captures

def paths (subject : Subject) (ignoresCase : Bool) : (fuel : Nat) → Regex → Path → List Path
  | 0, _, _ => []
  | _ + 1, .empty, path => [path]
  | _ + 1, .oneOf octets, (position, groups) =>
      match subject.characters[position]? with
      | some c => if octets.contains c then [(position + 1, groups)] else []
      | none => []
  | _ + 1, .meets anchor, (position, groups) =>
      if subject.isAt position anchor then [(position, groups)] else []
  | fuel + 1, .group index body, (position, groups) =>
      (paths subject ignoresCase fuel body (position, groups)).map fun (stop, groups) =>
        (stop, (index, position, stop) :: groups.filter (·.1 != index))
  | _ + 1, .reference index, (position, groups) =>
      match groups.lookup index with
      | some (start, stop) =>
          match endOfSame? subject ignoresCase start stop position with
          | some stop => [(stop, groups)]
          | none => []
      | none => []
  | fuel + 1, .sequence first second, path =>
      ((paths subject ignoresCase fuel first path).flatMap
        (paths subject ignoresCase fuel second)).eraseDups
  | fuel + 1, .either first second, path =>
      paths subject ignoresCase fuel first path ++ paths subject ignoresCase fuel second path
  | fuel + 1, .repetition least most body, path =>
      let rest := Regex.repetition (least - 1) (most.map (· - 1)) body
      let more :=
        if most == some 0 then []
        else
          ((paths subject ignoresCase fuel body path).filter fun next =>
            least != 0 || next.1 != path.1).flatMap (paths subject ignoresCase fuel rest)
      (if least == 0 then more ++ [path] else more).eraseDups

def longest? : List Path → Option Path
  | [] => none
  | path :: rest =>
      some (rest.foldl (fun best path => if best.1 < path.1 then path else best) path)

/-!
# Searching
-/

structure Search where
  regex : Regex
  subject : Subject
  ignoresCase : Bool
  track : Track
  starts : Positions

namespace Search

/-- Looks for an expression, in which letters of either case have been put already. -/
def of (regex : Regex) (ignoresCase : Bool) (subject : Subject) : Search :=
  let track := Track.ofRegex subject regex
  let size := subject.length
  ⟨regex, subject, ignoresCase, track,
    if regex.hasReference then 0 else track.backward size (Track.atLeast size 0)⟩

def stopsFrom (search : Search) (start : Nat) : Positions :=
  if search.regex.hasReference then
    let fuel := search.regex.depth + search.subject.length + 2
    (paths search.subject search.ignoresCase fuel search.regex (start, [])).foldl
      (fun set path => set ||| 1 <<< path.1) 0
  else search.track.forward search.subject.length (1 <<< start)

/-- The first span from a position on that satisfies a predicate, the longest from its start. -/
def findSpan? (search : Search) (accepts : Nat → Nat → Bool) (first : Nat) : Option (Nat × Nat) :=
  let size := search.subject.length
  ((List.range (size + 1)).drop first).findSome? fun start =>
    let stops := search.stopsFrom start
    if stops == 0 then none
    else
      ((List.range (size + 1 - start)).reverse.find? fun n =>
        stops.testBit (start + n) && accepts start (start + n)).map fun n => (start, start + n)

def tried? (search : Search) (start : Nat) : Option Match :=
  let fuel := search.regex.depth + search.subject.length + 2
  (longest? (paths search.subject search.ignoresCase fuel search.regex (start, []))).map
    fun (stop, groups) => ⟨start, stop, groups⟩

def followed? (search : Search) (start : Nat) : Option Match :=
  let size := search.subject.length
  (Track.highest? (search.track.forward size (1 <<< start))).map fun stop =>
    ⟨start, stop, search.track.captures size start stop []⟩

def matchAt? (search : Search) (start : Nat) : Option Match :=
  if search.regex.hasReference then search.tried? start else search.followed? start

def find? (search : Search) (first : Nat) : Option Match :=
  let size := search.subject.length
  if size < first then none
  else if search.regex.hasReference then
    (List.range (size + 1 - first)).findSome? fun i => search.tried? (first + i)
  else
    (Track.lowest? size (search.starts &&& Track.atLeast size first)).bind search.followed?

def hasMatch (search : Search) : Bool :=
  if search.regex.hasReference then (search.find? 0).isSome else search.starts != 0

end Search

def slice (t : Text) (start stop : Nat) : Text :=
  (t.drop start).take (stop - start)

end Regex
end Shell
end StubAssist
