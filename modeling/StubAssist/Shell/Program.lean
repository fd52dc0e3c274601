import StubAssist.Shell.Program.Options
import StubAssist.Shell.Program.Quoting

/-!
# Programs

What programs have in common: they go through their operands, read them line by line,
and understand numbers with units.
-/

namespace StubAssist
namespace Shell
namespace Program

open Activity

/-!
# Lines

Here a line is what a certain character ends, which is nearly always a line feed; only
the last one may go without.
-/

/-- The pieces of a text, each but the last one with the character that ends it. -/
def pieces (ending : Char) (t : Text) : List Text :=
  t.foldr (fun c pieces =>
    if c == ending then [c] :: pieces
    else
      match pieces with
      | [] => [[c]]
      | piece :: pieces => (c :: piece) :: pieces) []

def unended (ending : Char) (piece : Text) : Text × Bool :=
  if piece.getLast? == some ending then (piece.dropLast, true) else (piece, false)

def records (ending : Char) (t : Text) : List Text :=
  (pieces ending t).map fun piece => (unended ending piece).1

def lines (t : Text) : List Text :=
  records '\n' t

def partsAt (separator : Char) (t : Text) : List Text :=
  t.foldr (fun c parts =>
    if c == separator then [] :: parts
    else
      match parts with
      | [] => [[c]]
      | part :: parts => (c :: part) :: parts) [[]]

/-!
# Operands
-/

def orInput (operands : List Text) : List Text :=
  if operands.isEmpty then [['-']] else operands

def reason (error : FileError) : Text :=
  (error.description).1

def isReadFailure (error : FileError) : Bool :=
  error == .isADirectory || error == .badDescriptor

def sourceName (operand : Text) : Text :=
  if operand == "-" then "standard input" else operand

def checkInput (topic : Text) (operands : List Text) : Activity Unit := do
  if (orInput operands).contains ['-'] && !(← surroundings).hasInput then
    complain (topic ++ ": " ++ reason .badDescriptor)

def about (operand : Text) (error : FileError) : Text :=
  quoteTopic operand ++ ": " ++ reason error

def unopened (operand : Text) (error : FileError) : Text :=
  "cannot open " ++ quoteName operand ++ " for reading: " ++ reason error

/-- Goes through operands with what they hold, and complains of those that cannot be read. -/
def eachInput (complaint : Text → FileError → Text) (operands : List Text)
    (action : Text → Text → Activity Unit) : Activity Unit := do
  for operand in orInput operands do
    match ← contents operand with
    | .ok t => action operand t
    | .error error => complain (complaint operand error)

def endedLines (ending : Char) (t : Text) : Text :=
  (t.reverse.dropWhile (· != ending)).reverse

/-- Goes through operands with what they hold as far as it is known, line by line; after one
that holds more there is nothing else to be done. -/
def eachFlow (complaint : Text → FileError → Text) (ending : Char) (operands : List Text)
    (action : Text → Activity Unit) : Activity Unit := do
  for operand in orInput operands do
    match ← flow operand with
    | .ok (t, hasMore) =>
        action (if hasMore then endedLines ending t else t)
        if hasMore then continueForever
    | .error error => complain (complaint operand error)

def wholeFlow (complaint : Text → FileError → Text) (operands : List Text) :
    Activity (Text × Bool) := do
  let mut found := []
  for operand in orInput operands do
    match ← flow operand with
    | .ok (t, hasMore) =>
        found := t :: found
        if hasMore then return (found.reverse.flatten, true)
    | .error error => complain (complaint operand error)
  return (found.reverse.flatten, false)

def demandOperand (operands : List Text) : Activity Unit := do
  if operands.isEmpty then misuse 1 "missing operand"

def refuseExtra (status count : Nat) (operands : List Text) : Activity Unit := do
  match operands.drop count with
  | operand :: _ => misuse status ("extra operand " ++ quote operand)
  | [] => return ()

/-!
# Names from a list
-/

/-- A file that lists the operands, and whether it tells how many there are at once. -/
structure NameList where
  path : Text
  isSized : Bool
deriving DecidableEq, Repr

namespace NameList

def refuseOthers (status : Nat) (operands : List Text) : Activity Unit := do
  match operands with
  | [] => return ()
  | operand :: _ =>
      remark ("extra operand " ++ quote operand)
      writeTo .complaints "file operands cannot be combined with --files0-from\n"
      hint
      exit status

def flaw? (list : NameList) (number : Nat) (name : Text) : Option Text :=
  if name.isEmpty then
    some (quoteTopic list.path ++ ':' :: Text.ofNat number ++ ": invalid zero-length file name")
  else if name == "-" && list.path == "-" then
    some "when reading file names from stdin, no file name of '-' allowed"
  else none

end NameList

/-!
# Numbers
-/

def isBlank (c : Char) : Bool :=
  c == ' ' || c == '\t'

def isSpace (c : Char) : Bool :=
  c == ' ' || ('\t' ≤ c && c ≤ '\r')

def alignRight (width : Nat) (t : Text) : Text :=
  List.replicate (width - t.length) ' ' ++ t

def alignLeft (width : Nat) (t : Text) : Text :=
  t ++ List.replicate (width - t.length) ' '

def magnitude? (c : Char) : Option Nat :=
  match c with
  | 'k' | 'K' => some 1
  | 'm' | 'M' => some 2
  | 'g' | 'G' => some 3
  | 't' | 'T' => some 4
  | 'P' => some 5
  | 'E' => some 6
  | 'Z' => some 7
  | 'Y' => some 8
  | 'R' => some 9
  | 'Q' => some 10
  | _ => none

def unit? (letters : Text) : Text → Option Nat
  | [] => some 1
  | c :: rest =>
      if !List.contains letters c then none
      else if c == 'b' then (if rest.isEmpty then some 512 else none)
      else
        match magnitude? c, rest with
        | some power, [] => some (Nat.pow 1024 power)
        | some power, ['B'] => some (Nat.pow 1000 power)
        | some power, ['i', 'B'] => some (Nat.pow 1024 power)
        | _, _ => none

def quantity? (letters : Text) (t : Text) : Option Nat :=
  let t := t.dropWhile isSpace
  let t := match t with
    | '+' :: rest => rest
    | _ => t
  let digits := t.takeWhile Char.isDigit
  let rest := t.dropWhile Char.isDigit
  if digits.isEmpty && rest.isEmpty then none
  else do
    let n ← if digits.isEmpty then some 1 else Text.digitsFrom? 0 digits
    let unit ← unit? letters rest
    return n * unit

end Program
end Shell
end StubAssist
