import StubAssist.Shell.Difference.Marks
import StubAssist.Shell.Difference.Midpoint

/-!
# Differences

What has to be left out of a sequence and put in to get another one.  As little as
possible is changed, apart from items that have too many partners to be told apart.
-/

namespace StubAssist
namespace Shell
namespace Difference

/-- Items that are replaced: where they are in both sequences, and how many there are. -/
structure Change where
  first : Nat
  second : Nat
  deleted : Nat
  inserted : Nat
deriving DecidableEq, Repr

def mark (pair : Pair) : (fuel : Nat) → Box → Marks × Marks → Marks × Marks
  | 0, _, marks => marks
  | fuel + 1, box, (first, second) =>
      let left := pair.slide box (box.left - box.top) box.size box.left
      let box := { box with left := left, top := box.top + (left - box.left) }
      let right := pair.climb box (box.right - box.bottom) box.size box.right
      let box := { box with right := right, bottom := box.bottom - (box.right - right) }
      let markAll := fun (marks : Marks) (start stop : Int) =>
        (List.range (stop - start).toNat).foldl
          (fun marks i => marks.setIfInBounds (start.toNat + i) true) marks
      if box.left == box.right then (first, markAll second box.top box.bottom)
      else if box.top == box.bottom then (markAll first box.left box.right, second)
      else
        let (x, y) := midpoint pair box
        mark pair fuel { box with left := x, top := y }
          (mark pair fuel { box with right := x, bottom := y } (first, second))

def tally (bound : Nat) (items : List Nat) : Array Nat :=
  items.foldl (fun counts item => counts.setIfInBounds item (counts.getD item 0 + 1))
    (Array.replicate bound 0)

def restore (aside : List Bool) (marks : Marks) : Marks :=
  (aside.foldl (fun (found, i) isAside =>
    if isAside then (found.push true, i) else (found.push (marks.has i), i + 1))
    ((#[] : Marks), 0)).1

def marksOf (isMinimal : Bool) (bound : Nat) (first second : List Nat) : Marks × Marks :=
  let aside := fun (items : List Nat) (counts : Array Nat) =>
    if isMinimal then items.map fun _ => false
    else Aside.ofPartners (items.map fun item => counts.getD item 0)
  let asideFirst := aside first (tally bound second)
  let asideSecond := aside second (tally bound first)
  let keep := fun (items : List Nat) (aside : List Bool) =>
    ((items.zip aside).filterMap fun (item, isAside) => if isAside then none else some item)
  let keptFirst := keep first asideFirst
  let keptSecond := keep second asideSecond
  let none := fun (items : List Nat) => Array.replicate items.length false
  let box : Box := ⟨0, keptFirst.length, 0, keptSecond.length⟩
  let (a, b) := mark ⟨keptFirst.toArray, keptSecond.toArray⟩ box.size box
    (none keptFirst, none keptSecond)
  let a := restore asideFirst a
  let b := restore asideSecond b
  let a := shift first.toArray a b
  (a, shift second.toArray b a)

def changesFrom (first second : Marks) (sizeFirst sizeSecond : Nat) : (fuel : Nat) → (i j : Nat) →
    List Change
  | 0, _, _ => []
  | fuel + 1, i, j =>
      if sizeFirst ≤ i && sizeSecond ≤ j then []
      else
        let nextI := first.nextFree i
        let nextJ := second.nextFree j
        if nextI == i && nextJ == j then
          changesFrom first second sizeFirst sizeSecond fuel (i + 1) (j + 1)
        else
          ⟨i, j, nextI - i, nextJ - j⟩ ::
            changesFrom first second sizeFirst sizeSecond fuel nextI nextJ

def commonStart {α : Type} [BEq α] : List α → List α → Nat
  | a :: first, b :: second => if a == b then commonStart first second + 1 else 0
  | _, _ => 0

/--
The common items at the start and at the end of two sequences that need not be looked at,
where `horizon` items next to others are.
-/
def commonEnds {α : Type} [BEq α] (horizon : Nat) (first second : List α) : Nat × Nat :=
  let start := commonStart first second
  let finish := commonStart (first.drop start).reverse (second.drop start).reverse
  (start - horizon, finish - horizon)

/-- The changes from one sequence to another, with items below a bound, between their ends. -/
def changes (isMinimal : Bool) (bound : Nat) (ends : Nat × Nat) (first second : List Nat) :
    List Change :=
  let (start, finish) := ends
  let inside := fun (items : List Nat) =>
    (items.drop start).take (items.length - start - finish)
  let first := inside first
  let second := inside second
  let (marksA, marksB) := marksOf isMinimal bound first second
  let fuel := first.length + second.length + 1
  (changesFrom marksA marksB first.length second.length fuel 0 0).map fun change =>
    { change with first := change.first + start, second := change.second + start }

end Difference
end Shell
end StubAssist
