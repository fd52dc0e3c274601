import StubAssist.Shell.Machine

/-!
# Reading lines

The built-in command that reads a line of its input into variables.
-/

namespace StubAssist
namespace Shell
namespace Builtin

open Machine

inductive Sign where
  | plain (c : Char)
  | hidden (c : Char)
  | joint

def signs (isRaw : Bool) : Text → List Sign
  | [] => []
  | '\\' :: rest =>
      if isRaw then .plain '\\' :: signs isRaw rest
      else
        match rest with
        | [] => []
        | '\n' :: rest => .joint :: signs isRaw rest
        | c :: rest => .hidden c :: signs isRaw rest
  | c :: rest => .plain c :: signs isRaw rest

structure Dealing where
  left : Nat
  complete : List Text
  field : Text
  size : Nat
  /-- Where the last field ends, unless more comes that belongs to it. -/
  stop : Option Nat
  isAfterField : Bool
  /-- Whether blanks have ended it, so that another separator may follow them. -/
  isBlank : Bool

namespace Dealing

def start (count : Nat) : Dealing := ⟨count, [], [], 0, none, false, false⟩

def push (dealing : Dealing) (c : Char) : Dealing :=
  { dealing with field := c :: dealing.field, size := dealing.size + 1 }

def finish (dealing : Dealing) : Dealing :=
  { dealing with
    complete := dealing.field.reverse :: dealing.complete
    field := []
    size := 0
    isAfterField := true }

def interrupt (dealing : Dealing) : Dealing :=
  { dealing with isAfterField := false, isBlank := false }

/-- Takes a character of the last field, which separators at its end may not belong to. -/
def takeLast (dealing : Dealing) (c : Char) (isSeparator isBlank : Bool) : Dealing :=
  let stop :=
    if isBlank then some (dealing.stop.getD dealing.size)
    else if isSeparator && dealing.isBlank then dealing.stop else none
  { dealing.push c with stop := stop, isBlank := isBlank && dealing.isBlank }

def takeChar (dealing : Dealing) (c : Char) (isSeparator isBlank : Bool) : Dealing :=
  if dealing.left == 0 then dealing.takeLast c isSeparator isBlank
  else if !isSeparator then dealing.push c
  else
    let dealing := { dealing with isBlank := isBlank }
    if isBlank && dealing.size == 0 then dealing
    else
      let left := dealing.left - 1
      if left == 0 then { dealing.push c with left := left, stop := some dealing.size }
      else { dealing.finish with left := left }

def take (separators : List Char) (dealing : Dealing) : Sign → Dealing
  | .joint => dealing.interrupt
  | .hidden c => dealing.interrupt.push c
  | .plain c =>
      let isSeparator := separators.contains c
      let isBlank := isSeparator && (c == ' ' || c == '\t' || c == '\n')
      if dealing.isAfterField && isBlank then dealing
      else if dealing.isAfterField && isSeparator && dealing.isBlank then
        { dealing with isBlank := false }
      else { dealing with isAfterField := false }.takeChar c isSeparator isBlank

def fields (dealing : Dealing) : List Text :=
  let field := dealing.field.reverse
  (field.take (dealing.stop.getD dealing.size) :: dealing.complete).reverse

end Dealing

/-- Deals out the fields of a line to `count` names; the last one gets all that is left. -/
def deal (separators : List Char) (count : Nat) (line : List Sign) : List Text :=
  let fields := (line.foldl (Dealing.take separators) (.start count)).fields
  fields ++ List.replicate (count - fields.length) []

def goesOn : Text → Bool
  | [] => false
  | ['\\'] => true
  | '\\' :: _ :: rest => goesOn rest
  | _ :: rest => goesOn rest

def plainLine : Machine (Text × Bool) := do
  let (bytes, isWhole) ← nextLine 0
  return ((Octets.ofBytes bytes).filter (· != '\x00'), isWhole)

def readOn : (fuel : Nat) → Text × Bool → Machine (Text × Bool)
  | fuel + 1, (line, true) => do
      if goesOn line then
        let (more, isWhole) ← plainLine
        readOn fuel (line ++ '\n' :: more, isWhole)
      else return (line, true)
  | _, line => return line

def unread : Machine Nat := do
  return ((supply (← get) 0).toOption.map fun supply => supply.rest.length).getD 0

/-- Reads a line, with those that it goes on with unless backslashes have no meaning. -/
def readLine (isRaw : Bool) : Machine (Text × Bool) := do
  let (line, isWhole) ← plainLine
  if isRaw || !goesOn line then return (line, isWhole)
  else readOn ((← unread) + 1) (line, isWhole)

/-- Reads a line into variables; fails if the input ends before the line does. -/
def read : Action := fun arguments => do
  match Options.read "p:r" arguments with
  | .error reason => fail reason
  | .ok (_, []) => fail "arg count"
  | .ok (options, names) =>
      let isRaw := options.any (·.1 == 'r')
      let (line, isWhole) ← readLine isRaw
      let values := deal (← separators) names.length (signs isRaw line)
      for (name, value) in names.zip values do
        checkName name
        assign name value
      setStatus (if isWhole then 0 else 1)

end Builtin
end Shell
end StubAssist
