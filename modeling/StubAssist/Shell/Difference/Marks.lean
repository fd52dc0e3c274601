/-!
# Marks on items

Items of a sequence are marked as changed.  Before a search, items without a partner
are put aside, and others that have too many partners along with them.  After it, runs
of marks are moved to where they join others.
-/

namespace StubAssist
namespace Shell
namespace Difference

/-!
# Items that are put aside
-/

inductive Aside where
  | kept
  | dropped
  | doubtful
deriving DecidableEq, Repr

namespace Aside

def doubled (start : Nat) : (fuel : Nat) → Nat → Nat
  | 0, _ => start
  | fuel + 1, n => if n / 4 == 0 then start else doubled (2 * start) fuel (n / 4)

def manyPartners (size : Nat) : Nat :=
  doubled 5 size (size / 64)

/-- Keeps items in doubt up to the first place where three others follow each other. -/
def keepEarly : (index count : Nat) → List Aside → List Aside
  | _, _, [] => []
  | index, count, mark :: rest =>
      if 8 ≤ index && mark == dropped then mark :: rest
      else
        match mark with
        | dropped =>
            if count == 2 then dropped :: rest
            else dropped :: keepEarly (index + 1) (count + 1) rest
        | _ => kept :: keepEarly (index + 1) 0 rest

def keepGroups (least : Nat) (run : List Aside) : List Aside :=
  (List.splitBy (· == ·) run).flatMap fun group =>
    if group.head? == some doubtful && least ≤ group.length then group.map fun _ => kept
    else group

def settleRun (run : List Aside) : List Aside :=
  let count := (run.filter (· == doubtful)).length
  if run.length < 4 * count then run.map fun mark => if mark == doubtful then kept else mark
  else
    let run := keepGroups (doubled 1 run.length (run.length / 4) + 1) run
    (keepEarly 0 0 (keepEarly 0 0 run).reverse).reverse

def settle : (fuel : Nat) → List Aside → List Aside
  | 0, marks => marks
  | _ + 1, [] => []
  | fuel + 1, dropped :: rest =>
      let run := (dropped :: rest).takeWhile (· != kept)
      let core := (run.reverse.dropWhile (· == doubtful)).reverse
      let tail := run.drop core.length
      settleRun core ++ tail.map (fun _ => kept) ++ settle fuel ((dropped :: rest).drop run.length)
  | fuel + 1, _ :: rest => kept :: settle fuel rest

def ofPartners (partners : List Nat) : List Bool :=
  let many := manyPartners partners.length
  let marks := partners.map fun n =>
    if n == 0 then dropped else if many < n then doubtful else kept
  (settle (marks.length + 1) marks).map (· != kept)

end Aside

/-!
# Moving runs
-/

abbrev Marks := Array Bool

namespace Marks

def has (marks : Marks) (i : Nat) : Bool :=
  marks.getD i false

def skip (marks : Marks) : (fuel : Nat) → Nat → Nat
  | 0, i => i
  | fuel + 1, i => if marks.has i then skip marks fuel (i + 1) else i

def nextFree (marks : Marks) (i : Nat) : Nat :=
  marks.skip marks.size i

def lastFree (marks : Marks) : Nat → Nat
  | 0 => 0
  | i + 1 => if marks.has i then lastFree marks i else i

def runStart (marks : Marks) : Nat → Nat
  | 0 => 0
  | i + 1 => if marks.has i then runStart marks i else i + 1

end Marks

/-- A run of marks, from a start up to a stop, and the place in the other sequence. -/
structure Run where
  marks : Marks
  start : Nat
  stop : Nat
  place : Nat
  /-- The last stop that has marks at its place in the other sequence, if any has. -/
  partner : Option Nat
deriving Repr

namespace Run

def moveBack (other : Marks) (run : Run) : Run :=
  let marks : Marks :=
    (run.marks.setIfInBounds (run.start - 1) true).setIfInBounds (run.stop - 1) false
  { run with
    marks := marks
    start := marks.runStart (run.start - 1)
    stop := run.stop - 1
    place := other.lastFree run.place }

def slideBack (items : Array Nat) (other : Marks) : (fuel : Nat) → Run → Run
  | 0, run => run
  | fuel + 1, run =>
      if run.start != 0 && items[run.start - 1]? == items[run.stop - 1]? then
        slideBack items other fuel (run.moveBack other)
      else run

def slideOn (items : Array Nat) (other : Marks) : (fuel : Nat) → Run → Run
  | 0, run => run
  | fuel + 1, run =>
      if run.stop < items.size && items[run.start]? == items[run.stop]? then
        let marks : Marks :=
          (run.marks.setIfInBounds run.start false).setIfInBounds run.stop true
        let stop := marks.nextFree (run.stop + 1)
        let place := other.nextFree (run.place + 1)
        slideOn items other fuel
          { marks := marks
            start := run.start + 1
            stop := stop
            place := place
            partner := if place != run.place + 1 then some stop else run.partner }
      else run

def merge (items : Array Nat) (other : Marks) : (fuel : Nat) → Run → Run
  | 0, run => run
  | fuel + 1, run =>
      let size := run.stop - run.start
      let run := run.slideBack items other (items.size + 1)
      let partner := if run.place != 0 && other.has (run.place - 1) then some run.stop else none
      let run := { run with partner := partner }.slideOn items other (items.size + 1)
      if run.stop - run.start == size then run else merge items other fuel run

def align (other : Marks) : (fuel : Nat) → Run → Run
  | 0, run => run
  | fuel + 1, run =>
      match run.partner with
      | some stop =>
          if stop < run.stop then
            let marks :=
              (run.marks.setIfInBounds (run.start - 1) true).setIfInBounds (run.stop - 1) false
            align other fuel
              { run with
                marks := marks
                start := run.start - 1
                stop := run.stop - 1
                place := other.lastFree run.place }
          else run
      | none => run

end Run

def findRun (size : Nat) (marks other : Marks) : (fuel : Nat) → (i j : Nat) → Nat × Nat
  | 0, i, j => (i, j)
  | fuel + 1, i, j =>
      if i < size && !marks.has i then findRun size marks other fuel (i + 1) (other.nextFree j + 1)
      else (i, j)

def shiftFrom (items : Array Nat) (other : Marks) : (fuel : Nat) → (i j : Nat) → Marks → Marks
  | 0, _, _, marks => marks
  | fuel + 1, i, j, marks =>
      let size := items.size
      let (start, place) := findRun size marks other (size + 1) i j
      if size ≤ start then marks
      else
        let run : Run :=
          { marks := marks
            start := start
            stop := marks.nextFree (start + 1)
            place := other.nextFree place
            partner := none }
        let run := run.merge items other (size + 1)
        let run := run.align other (size + 1)
        shiftFrom items other fuel run.stop run.place run.marks

def shift (items : Array Nat) (marks other : Marks) : Marks :=
  shiftFrom items other (items.size + 1) 0 0 marks

end Difference
end Shell
end StubAssist
