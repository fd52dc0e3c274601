import StubAssist.Shell.Program

/-!
# Width of lines

Lines that are too wide are folded, tabs become blanks, and blanks become tabs.  A line
is as wide as the column that comes after its last character.
-/

namespace StubAssist
namespace Shell
namespace Program

open Activity

namespace Folding

structure Fold where
  width : Nat
  countsBytes : Bool
  breaksAtBlanks : Bool
deriving DecidableEq, Repr

def Fold.after (fold : Fold) (column : Nat) (c : Char) : Nat :=
  if fold.countsBytes then column + 1
  else if c == '\x08' then column - 1
  else if c == '\r' then 0
  else if c == '\t' then column + 8 - column % 8
  else column + 1

/-- What is written, and the line that is being made; both the latest first. -/
structure Making where
  written : Text
  line : Text
  column : Nat
deriving DecidableEq, Repr

def Fold.add (fold : Fold) (c : Char) : (fuel : Nat) → Making → Making
  | 0, making => making
  | fuel + 1, making =>
      let column := fold.after making.column c
      if column ≤ fold.width then { making with line := c :: making.line, column := column }
      else
        let kept := making.line.takeWhile (!isBlank ·)
        if fold.breaksAtBlanks && kept.length < making.line.length then
          fold.add c fuel
            { written := '\n' :: making.line.drop kept.length ++ making.written
              line := kept
              column := kept.foldr (fun c column => fold.after column c) 0 }
        else if making.line.isEmpty then { making with line := [c], column := column }
        else fold.add c fuel ⟨'\n' :: making.line ++ making.written, [], 0⟩

def Fold.step (fold : Fold) (making : Making) (c : Char) : Making :=
  if c == '\n' then ⟨'\n' :: making.line ++ making.written, [], 0⟩ else fold.add c 4 making

def Fold.apply (fold : Fold) (t : Text) : Text :=
  let making := t.foldl fold.step ⟨[], [], 0⟩
  (making.line ++ making.written).reverse

def limit : Nat := Nat.pow 2 64 - 10

def forms : OptionForms where
  letters := "bsw:0::1::2::3::4::5::6::7::8::9::"
  words := [("bytes", 'b', .no), ("spaces", 's', .no), ("width", 'w', .yes)]
  isOrdered := false

def ownDigits (option : GivenOption) : Text :=
  option.key :: option.value.getD []

def width (t : Text) : Activity Nat := do
  let complaint := "invalid number of columns: " ++ quote t
  match quantity? [] t with
  | none => fail 1 complaint
  | some n =>
      if n == 0 then fail 1 (complaint ++ ": Numerical result out of range")
      if limit < n then fail 1 (complaint ++ ": Value too large for defined data type")
      return n

/-!
# Stops of tabs
-/

/-- Where tabs stop: in listed columns, and then in regular ones. -/
structure Stops where
  columns : List Nat
  multiple : Option Nat
  distance : Option Nat
deriving DecidableEq, Repr

namespace Stops

def none : Stops := ⟨[], .none, .none⟩

def next? (stops : Stops) (column : Nat) : Option Nat :=
  match stops with
  | ⟨[], .none, .none⟩ => some (column + 8 - column % 8)
  | ⟨[size], .none, .none⟩ => some (column + size - column % size)
  | ⟨columns, multiple, distance⟩ =>
      match columns.find? (column < ·), multiple, distance with
      | some found, _, _ => some found
      | .none, some size, _ => some (column + size - column % size)
      | .none, .none, some size =>
          some (column + size - (column - columns.getLast?.getD 0) % size)
      | .none, .none, .none => .none

inductive Role where
  | column
  | multiple
  | distance
deriving DecidableEq, Repr

def last : Text := " specifier only allowed with the last value"

def add (role : Role) (n : Nat) (stops : Stops) : Except Text Stops :=
  match role with
  | .column => .ok { stops with columns := stops.columns ++ [n] }
  | .multiple =>
      if stops.multiple.isSome then .error ("'/'" ++ last)
      else .ok { stops with multiple := if n == 0 then .none else some n }
  | .distance =>
      if stops.distance.isSome then .error ("'+'" ++ last)
      else .ok { stops with distance := if n == 0 then .none else some n }

/-- Reads a list of stops; `digits` are those of the number at hand. -/
def readFrom (role : Role) (digits : Text) (stops : Stops) : Text → Except Text Stops
  | [] => if digits.isEmpty then .ok stops else take role digits stops
  | c :: rest =>
      if c == ',' || isBlank c then
        if digits.isEmpty then readFrom role [] stops rest
        else
          match take role digits stops with
          | .ok stops => readFrom role [] stops rest
          | .error flaw => .error flaw
      else if c == '/' || c == '+' then
        if !digits.isEmpty then
          .error (quote [c] ++ " specifier not at start of number: " ++ quote (c :: rest))
        else readFrom (if c == '/' then .multiple else .distance) [] stops rest
      else if c.isDigit then readFrom role (digits ++ [c]) stops rest
      else .error ("tab size contains invalid character(s): " ++ quote (c :: rest))
where
  take (role : Role) (digits : Text) (stops : Stops) : Except Text Stops :=
    match Text.digitsFrom? 0 digits with
    | some n =>
        if n < Nat.pow 2 64 then add role n stops
        else .error ("tab stop is too large " ++ quote digits)
    | _ => .ok stops

def flaw? (stops : Stops) : Option Text :=
  if List.contains stops.columns 0 then some "tab size cannot be 0"
  else if (stops.columns.zip (stops.columns.drop 1)).any fun (a, b) => b ≤ a then
    some "tab sizes must be ascending"
  else if stops.multiple.isSome && stops.distance.isSome then
    some "'/' specifier is mutually exclusive with '+'"
  else Option.none

def ofLists (lists : List Text) : Activity Stops := do
  let mut stops := Stops.none
  for t in lists do
    match readFrom .column [] stops t with
    | .ok read => stops := read
    | .error flaw => fail 1 flaw
  match stops.flaw? with
  | some flaw => fail 1 flaw
  | .none => return stops

end Stops

/-!
# Tabs to blanks
-/

structure Expansion where
  column : Nat
  converts : Bool
deriving DecidableEq, Repr

def Expansion.step (stops : Stops) (isWhole : Bool) (state : Expansion) (c : Char) :
    Text × Expansion :=
  if c == '\n' then (['\n'], ⟨0, true⟩)
  else if !state.converts then ([c], state)
  else if c == '\t' then
    let next := (stops.next? state.column).getD (state.column + 1)
    (List.replicate (next - state.column) ' ', ⟨next, true⟩)
  else if c == '\x08' then ([c], ⟨state.column - 1, isWhole⟩)
  else ([c], ⟨state.column + 1, isWhole || isBlank c⟩)

def expanded (stops : Stops) (isWhole : Bool) : Expansion → Text → Text
  | _, [] => []
  | state, c :: rest =>
      let (written, state) := state.step stops isWhole c
      written ++ expanded stops isWhole state rest

/-!
# Blanks to tabs
-/

structure Contraction where
  column : Nat
  converts : Bool
  pending : Text
  isAfterBlank : Bool
  isAtStop : Bool
deriving DecidableEq, Repr

namespace Contraction

def start : Contraction := ⟨0, true, [], true, false⟩

/-- The blanks that stay, where a first one that stands for a whole stop is a tab. -/
def settled (state : Contraction) : Text :=
  let blanks := state.pending.reverse
  if 1 < blanks.length && state.isAtStop then '\t' :: blanks.drop 1 else blanks

def put (state : Contraction) (isWhole : Bool) (c : Char) (column : Nat) : Text × Contraction :=
  let isHere := isBlank c
  (state.settled ++ [c], ⟨column, isWhole || isHere, [], isHere, false⟩)

def step (stops : Stops) (isWhole : Bool) (state : Contraction) (c : Char) :
    Text × Contraction :=
  if !state.converts then ([c], if c == '\n' then start else state)
  else if c == '\n' then (state.settled ++ ['\n'], start)
  else if !isBlank c then
    let column := if c == '\x08' then state.column - 1 else state.column + 1
    state.put isWhole c column
  else
    match stops.next? state.column with
    | none =>
        let (written, state) := state.put isWhole c state.column
        (written, { state with converts := false })
    | some next =>
        let column := state.column + 1
        if c == '\t' then
          let kept : Text := if state.isAtStop && !state.pending.isEmpty then ['\t'] else []
          { state with pending := kept }.put isWhole '\t' next
        else if state.isAfterBlank && column == next then
          let kept : Text := if state.isAtStop then ['\t'] else []
          { state with pending := kept }.put isWhole '\t' column
        else
          ([], { state with
            column := column
            pending := c :: state.pending
            isAfterBlank := true
            isAtStop := state.isAtStop || column == next })

end Contraction

def contracted (stops : Stops) (isWhole : Bool) : Contraction → Text → Text
  | state, [] => state.settled
  | state, c :: rest =>
      let (written, state) := state.step stops isWhole c
      written ++ contracted stops isWhole state rest

def lettersAsList (given : Given) : Text :=
  (given.options.filter fun option => option.key.isDigit || option.key == ',').map (·.key)

end Folding

def fold : Program := fun arguments => do
  let given ← given 1 Folding.forms arguments
  let mut width := 80
  for option in given.options do
    if option.key.isDigit then width ← Folding.width (Folding.ownDigits option)
    else if option.key == 'w' then width ← Folding.width (option.value.getD [])
  let fold : Folding.Fold := ⟨width, given.has 'b', given.has 's'⟩
  for operand in orInput given.operands do
    match ← flow operand with
    | .ok (t, hasMore) =>
        let folded := fold.apply t
        print (if hasMore then endedLines '\n' folded else folded)
        if hasMore then continueForever
    | .error error => complain (about operand error)
  checkInput "-" given.operands

def expand : Program := fun arguments => do
  let given ← given 1
    { letters := "it:0::1::2::3::4::5::6::7::8::9::"
      words := [("tabs", 't', .yes), ("initial", 'i', .no)]
      isOrdered := false } arguments
  let lists := given.options.filterMap fun option =>
    if option.key.isDigit then some (Folding.ownDigits option)
    else if option.key == 't' then option.value
    else none
  let stops ← Folding.Stops.ofLists lists
  let (t, hasMore) ← wholeFlow about given.operands
  print (Folding.expanded stops (!given.has 'i') ⟨0, true⟩ t)
  if hasMore then continueForever
  checkInput "-" given.operands

def unexpand : Program := fun arguments => do
  let given ← given 1
    { letters := ",0123456789at:"
      words := [("tabs", 't', .yes), ("all", 'a', .no), ("first-only", 'f', .no)]
      isOrdered := false } arguments
  let stops ← Folding.Stops.ofLists (given.values 't' ++ [Folding.lettersAsList given])
  let (t, hasMore) ← wholeFlow about given.operands
  let isWhole := (given.has 'a' || given.has 't') && !given.has 'f'
  print (Folding.contracted stops isWhole .start t)
  if hasMore then continueForever
  checkInput "-" given.operands

end Program
end Shell
end StubAssist
