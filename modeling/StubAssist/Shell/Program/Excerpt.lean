import StubAssist.Shell.Program

/-!
# Excerpts

The first and the last lines or bytes of texts.
-/

namespace StubAssist
namespace Shell
namespace Program

open Activity

/-- What is taken from one end of a text, and what is shown with it. -/
structure Excerpt where
  count : Nat
  countsBytes : Bool
  isReversed : Bool
  ending : Char
  /-- Whether names are never shown, or always; otherwise they are with several texts. -/
  isQuiet : Bool
  isVerbose : Bool
deriving DecidableEq, Repr

namespace Excerpt

def ofStart (excerpt : Excerpt) (t : Text) : Text × Text :=
  if excerpt.countsBytes then
    let size := if excerpt.isReversed then t.length - excerpt.count else excerpt.count
    (t.take size, t.drop size)
  else
    let all := pieces excerpt.ending t
    let size := if excerpt.isReversed then all.length - excerpt.count else excerpt.count
    ((all.take size).flatten, (all.drop size).flatten)

def isWithin (excerpt : Excerpt) (t : Text) : Bool :=
  !excerpt.isReversed &&
    excerpt.count ≤ if excerpt.countsBytes then t.length else t.count excerpt.ending

def supply (excerpt : Excerpt) (t : Text) : Text :=
  let round := if excerpt.countsBytes then t.length else (pieces excerpt.ending t).length
  (List.replicate (excerpt.count / round + 1) t).flatten

def ofEnd (excerpt : Excerpt) (t : Text) : Text :=
  let start := fun (size : Nat) =>
    if excerpt.isReversed then excerpt.count - 1 else size - excerpt.count
  if excerpt.countsBytes then t.drop (start t.length)
  else
    let all := pieces excerpt.ending t
    (all.drop (start all.length)).flatten

def limit : Nat := Nat.pow 2 64 - 1

def parse (countsBytes : Bool) (t : Text) : Activity Nat := do
  let what : Text := if countsBytes then "bytes" else "lines"
  let complaint := "invalid number of " ++ what ++ ": " ++ quote t
  match quantity? "bkKmMGTPEZYRQ" t with
  | none => fail 1 complaint
  | some n =>
      if n ≤ limit then return n
      else fail 1 (complaint ++ ": Value too large for defined data type")

def ofGiven (sign : Char) (given : Given) : Activity Excerpt := do
  let base : Excerpt :=
    { count := 10
      countsBytes := false
      isReversed := false
      ending := if given.has 'z' then '\x00' else '\n'
      isQuiet := (given.last? "qv").map (·.key) == some 'q'
      isVerbose := (given.last? "qv").map (·.key) == some 'v' }
  match given.last? "nc" with
  | some ⟨key, some value⟩ =>
      let isReversed := value.head? == some sign
      let isSigned := value.head? == some '-'
      let countsBytes := key == 'c'
      let count ← parse countsBytes (if isSigned then value.drop 1 else value)
      return { base with count := count, countsBytes := countsBytes, isReversed := isReversed }
  | _ => return base

/-- Shows excerpts of operands, starts or ends, with their names if there are several. -/
def showAll (excerpt : Excerpt) (isEnd : Bool) (operands : List Text)
    (action : Text → Intake → Activity Unit) : Activity Unit := do
  let operands := orInput operands
  let showsNames := excerpt.isVerbose || (1 < operands.length && !excerpt.isQuiet)
  let mut isFirst := true
  for operand in operands do
    let found ← operandIntake operand
    let name := sourceName operand
    let isOpened := match found with
      | .ok _ => true
      | .error error => isReadFailure error
    if showsNames && isOpened then
      print ((if isFirst then "" else "\n") ++ "==> " ++ name ++ " <==\n")
      isFirst := false
    match found with
    | .ok intake => action operand intake
    | .error error =>
        let isMissing := isEnd && operand == "-" && !(← surroundings).hasInput
        let ofName := quoteName name ++ ": " ++ reason error
        complain (if isMissing then "cannot fstat " ++ ofName
          else if isReadFailure error then "error reading " ++ ofName
          else unopened operand error)
  checkInput "-" operands

def ofOldStyle (letters : Text) : List Text → List Text
  | ('-' :: c :: rest) :: arguments =>
      if !c.isDigit then ('-' :: c :: rest) :: arguments
      else
        let digits := (c :: rest).takeWhile Char.isDigit
        let after := (c :: rest).dropWhile Char.isDigit
        let unit := after.filter (List.contains "bkm".toList)
        if !after.all (List.contains letters) then ('-' :: c :: rest) :: arguments
        else
          let countsBytes := List.contains after 'c' || !unit.isEmpty
          let flags := after.filter (List.contains "qvz".toList)
          let key : Text := if countsBytes then "-c" else "-n"
          (key ++ digits ++ unit.take 1) :: (flags.map fun flag => ['-', flag]) ++ arguments
  | arguments => arguments

def forms : OptionForms where
  letters := "c:n:qvz0123456789"
  words := [("bytes", 'c', .yes), ("lines", 'n', .yes), ("quiet", 'q', .no), ("silent", 'q', .no),
    ("verbose", 'v', .no), ("zero-terminated", 'z', .no)]
  isOrdered := false

end Excerpt

def head : Program := fun arguments => do
  let given ← given 1 Excerpt.forms (Excerpt.ofOldStyle "bkmclqvz" arguments)
  match given.options.find? (·.key.isDigit) with
  | some option => misuse 1 ("invalid trailing option -- " ++ [option.key])
  | none => pure ()
  let excerpt ← Excerpt.ofGiven '-' given
  excerpt.showAll false given.operands fun operand intake => do
    if intake.isPartial && !excerpt.isWithin intake.text then continueForever
    let t := if intake.isEndless then excerpt.supply intake.text else intake.text
    let (start, rest) := excerpt.ofStart t
    print start
    if operand == "-" && intake.size.isSome then leaveUnread rest

def tail : Program := fun arguments => do
  let old := Excerpt.ofOldStyle "bcl" arguments
  if old != arguments && 2 < arguments.length then
    match arguments with
    | ('-' :: t) :: _ :: second :: _ =>
        if second.head? != some '-' then
          fail 1 ("option used in invalid context -- " ++ t.takeWhile Char.isDigit)
    | _ => pure ()
  let forms := { Excerpt.forms with letters := "c:n:qvzflFs:" }
  let given ← given 1 forms old
  let excerpt ← Excerpt.ofGiven '+' given
  excerpt.showAll true given.operands fun _ intake => do
    if intake.hasMore then continueForever
    print (excerpt.ofEnd intake.text)
  if given.has 'f' || given.has 'F' then continueForever

end Program
end Shell
end StubAssist
