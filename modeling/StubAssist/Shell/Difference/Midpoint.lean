/-!
# The middle of a shortest path

Two sequences span a grid, in which a step to the right leaves out an item of the first
one, a step down puts in an item of the second one, and items that are the same can be
passed diagonally.  Searches from both corners meet on a shortest path.
-/

namespace StubAssist
namespace Shell
namespace Difference

/-- A part of the grid, with the sequences along its sides. -/
structure Box where
  left : Int
  right : Int
  top : Int
  bottom : Int
deriving DecidableEq, Repr

structure Reach where
  places : Array Int
  least : Int
  greatest : Int
deriving Repr

structure Pair where
  first : Array Nat
  second : Array Nat
deriving Repr

namespace Pair

def isSame (pair : Pair) (x y : Int) : Bool :=
  pair.first[x.toNat]? == pair.second[y.toNat]?

def slide (pair : Pair) (box : Box) (diagonal : Int) : (fuel : Nat) → Int → Int
  | 0, x => x
  | fuel + 1, x =>
      let y := x - diagonal
      if x < box.right && y < box.bottom && pair.isSame x y then
        slide pair box diagonal fuel (x + 1)
      else x

def climb (pair : Pair) (box : Box) (diagonal : Int) : (fuel : Nat) → Int → Int
  | 0, x => x
  | fuel + 1, x =>
      let y := x - diagonal
      if box.left < x && box.top < y && pair.isSame (x - 1) (y - 1) then
        climb pair box diagonal fuel (x - 1)
      else x

end Pair

namespace Box

def leastDiagonal (box : Box) : Int :=
  box.left - box.bottom

def greatestDiagonal (box : Box) : Int :=
  box.right - box.top

def size (box : Box) : Nat :=
  (box.right - box.left).toNat + (box.bottom - box.top).toNat + 1

def index (box : Box) (diagonal : Int) : Nat :=
  (diagonal - box.leastDiagonal + 1).toNat

end Box

namespace Reach

def get (reach : Reach) (box : Box) (diagonal : Int) : Int :=
  reach.places.getD (box.index diagonal) 0

def set (reach : Reach) (box : Box) (diagonal x : Int) : Reach :=
  { reach with places := reach.places.setIfInBounds (box.index diagonal) x }

def start (box : Box) (diagonal x : Int) : Reach :=
  Reach.set ⟨Array.replicate (box.size + 2) 0, diagonal, diagonal⟩ box diagonal x

def holds (reach : Reach) (diagonal : Int) : Bool :=
  reach.least ≤ diagonal && diagonal ≤ reach.greatest

/-- One more diagonal on each side, as far as the box goes; beyond it nothing is reached. -/
def widen (reach : Reach) (box : Box) (nothing : Int) : Reach :=
  let reach :=
    if box.leastDiagonal < reach.least then
      { reach with least := reach.least - 1 }.set box (reach.least - 2) nothing
    else { reach with least := reach.least + 1 }
  if reach.greatest < box.greatestDiagonal then
    { reach with greatest := reach.greatest + 1 }.set box (reach.greatest + 2) nothing
  else { reach with greatest := reach.greatest - 1 }

def diagonals (reach : Reach) : List Int :=
  if reach.greatest < reach.least then []
  else
    (List.range ((reach.greatest - reach.least).toNat / 2 + 1)).map fun (i : Nat) =>
      reach.greatest - 2 * (i : Int)

end Reach

/-- A step of the search from the upper corner; the error is the point where it meets the other. -/
def advance (pair : Pair) (box : Box) (meets : Bool) (other : Reach) (reach : Reach)
    (diagonal : Int) : Except (Int × Int) Reach :=
  let below := reach.get box (diagonal - 1)
  let above := reach.get box (diagonal + 1)
  let x := pair.slide box diagonal box.size (if below < above then above else below + 1)
  if meets && other.holds diagonal && other.get box diagonal ≤ x then .error (x, x - diagonal)
  else .ok (reach.set box diagonal x)

def retreat (pair : Pair) (box : Box) (meets : Bool) (other : Reach) (reach : Reach)
    (diagonal : Int) : Except (Int × Int) Reach :=
  let below := reach.get box (diagonal - 1)
  let above := reach.get box (diagonal + 1)
  let x := pair.climb box diagonal box.size (if below < above then below else above - 1)
  if meets && other.holds diagonal && x ≤ other.get box diagonal then .error (x, x - diagonal)
  else .ok (reach.set box diagonal x)

def search (pair : Pair) (box : Box) (isOdd : Bool) : (fuel : Nat) → (down up : Reach) →
    Except (Int × Int) Unit
  | 0, _, _ => .ok ()
  | fuel + 1, down, up => do
      let down := down.widen box (-1)
      let down ← down.diagonals.foldlM (advance pair box isOdd up) down
      let up := up.widen box (box.right + box.bottom + 1)
      let up ← up.diagonals.foldlM (retreat pair box (!isOdd) down) up
      search pair box isOdd fuel down up

/-- A point in the middle of a shortest path through a box whose sides are not empty. -/
def midpoint (pair : Pair) (box : Box) : Int × Int :=
  let first := box.left - box.top
  let last := box.right - box.bottom
  let isOdd := (first - last) % 2 != 0
  match search pair box isOdd box.size (.start box first box.left) (.start box last box.right) with
  | .error point => point
  | .ok () => (box.right, box.top)

end Difference
end Shell
end StubAssist
