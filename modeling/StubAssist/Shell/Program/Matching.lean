import StubAssist.Shell.Program.Sorting

/-!
# Matching two texts

Two texts with sorted lines are gone through side by side: lines that are the same are
told apart from others, or lines with the same key are joined.  Lines that turn out not
to be sorted are complained of.
-/

namespace StubAssist
namespace Shell
namespace Program

open Activity

inductive OrderCheck where
  | whenUnpaired
  | always
  | never
deriving DecidableEq, Repr

namespace OrderCheck

def words : List (Text × Char × Valued) :=
  [("check-order", 'C', .no), ("nocheck-order", 'N', .no)]

def ofGiven (given : Given) : OrderCheck :=
  match (given.last? "CN").map (·.key) with
  | some 'C' => .always
  | some _ => .never
  | none => .whenUnpaired

end OrderCheck

def demandTwo (operands : List Text) : Activity (Text × Text) := do
  match operands with
  | [] => misuse 1 "missing operand"
  | [only] => misuse 1 ("missing operand after " ++ quote only)
  | [first, second] => return (first, second)
  | _ :: _ :: extra :: _ => misuse 1 ("extra operand " ++ quote extra)

/-!
# Common lines
-/

namespace Common

structure Form where
  showsFirst : Bool
  showsSecond : Bool
  showsBoth : Bool
  separator : Text
  ending : Char
  check : OrderCheck
deriving DecidableEq, Repr

structure Side where
  passed : List Text
  lines : List Text
  isSuspect : Bool
deriving DecidableEq, Repr

structure Progress where
  first : Side
  second : Side
  hasUnpaired : Bool
  counts : Nat × Nat × Nat

abbrev Merging := StateT Progress Activity

def checkOrder (form : Form) (number : Nat) (before after : Text) (side : Side) : Merging Side := do
  let isDue := form.check == .always ||
    (form.check == .whenUnpaired && (← get).hasUnpaired)
  if isDue && !side.isSuspect && after < before then
    let complaint := "file " ++ Text.ofNat number ++ " is not in sorted order"
    if form.check == .always then fail 1 complaint
    remark complaint
    return { side with isSuspect := true }
  else return side

def Side.step (form : Form) (number : Nat) (side : Side) : Merging Side := do
  match side.lines with
  | [] => return side
  | current :: rest =>
      let after := { side with passed := current :: side.passed, lines := rest }
      match rest, side.passed with
      | next :: _, _ => checkOrder form number current next after
      | [], before :: _ => checkOrder form number before current after
      | [], [] => return after

def showLine (form : Form) (column : Nat) (line : Text) : Activity Unit := do
  let (isShown, columnsBefore) :=
    match column with
    | 1 => (form.showsFirst, [])
    | 2 => (form.showsSecond, [form.showsFirst])
    | _ => (form.showsBoth, [form.showsFirst, form.showsSecond])
  if isShown then
    let indentation := columnsBefore.flatMap fun isColumn => if isColumn then form.separator else []
    print (indentation ++ line ++ [form.ending])

def merge (form : Form) : (fuel : Nat) → Merging Unit
  | 0 => return ()
  | fuel + 1 => do
      let progress ← get
      let order : Option Ordering :=
        match progress.first.lines, progress.second.lines with
        | [], [] => none
        | [], _ => some .gt
        | _, [] => some .lt
        | a :: _, b :: _ => some (Sorting.compareTexts a b)
      match order with
      | none => return ()
      | some order =>
          let (a, b, c) := progress.counts
          match order with
          | .eq =>
              set { progress with counts := (a, b, c + 1) }
              showLine form 3 (progress.second.lines.headD [])
          | .lt =>
              set { progress with counts := (a + 1, b, c), hasUnpaired := true }
              showLine form 1 (progress.first.lines.headD [])
          | .gt =>
              set { progress with counts := (a, b + 1, c), hasUnpaired := true }
              showLine form 2 (progress.second.lines.headD [])
          if order != .gt then
            let side ← progress.first.step form 1
            modify fun progress => { progress with first := side }
          if order != .lt then
            let side ← progress.second.step form 2
            modify fun progress => { progress with second := side }
          merge form fuel

end Common

def comm : Program := fun arguments => do
  let forms : OptionForms :=
    { letters := "123z"
      words := ("output-delimiter", 'D', .yes) :: ("total", 'T', .no) ::
        ("zero-terminated", 'z', .no) :: OrderCheck.words
      isOrdered := false }
  let given ← given 1 forms arguments
  let delimiters := given.values 'D'
  if delimiters.any fun t => some t != delimiters.head? then
    fail 1 "multiple output delimiters specified"
  let (firstName, secondName) ← demandTwo given.operands
  let form : Common.Form :=
    { showsFirst := !given.has '1'
      showsSecond := !given.has '2'
      showsBoth := !given.has '3'
      separator := match delimiters.head? with
        | none => ['\t']
        | some [] => ['\x00']
        | some t => t
      ending := if given.has 'z' then '\x00' else '\n'
      check := OrderCheck.ofGiven given }
  let side := fun (name : Text) => (do
    match ← contents name with
    | .ok t => return ⟨[], records form.ending t, false⟩
    | .error error => fail 1 (about name error) : Activity Common.Side)
  let first ← side firstName
  let second ← side secondName
  let fuel := first.lines.length + second.lines.length + 1
  let (_, progress) ← (Common.merge form fuel).run ⟨first, second, false, 0, 0, 0⟩
  if firstName == "-" && secondName == "-" then fail 1 "-: Bad file descriptor"
  if given.has 'T' then
    let (a, b, c) := progress.counts
    print (Text.joinWith form.separator
      [Text.ofNat a, Text.ofNat b, Text.ofNat c, "total"] ++ [form.ending])
  if progress.first.isSuspect || progress.second.isSuspect then
    fail 1 "input is not in sorted order"

/-!
# Joined lines
-/

namespace Join

inductive Division where
  | blanks
  | character (c : Char)
  | nothing
deriving DecidableEq, Repr

/-- A field of what is printed: the key, or a field of one of the two lines. -/
inductive Output where
  | key
  | field (isFirst : Bool) (index : Nat)
deriving DecidableEq, Repr

inductive Pattern where
  | all
  | automatic
  | listed (outputs : List Output)
deriving DecidableEq, Repr

structure Form where
  division : Division
  firstKey : Nat
  secondKey : Nat
  pattern : Pattern
  filler : Text
  ignoresCase : Bool
  showsFirst : Bool
  showsSecond : Bool
  showsPairs : Bool
  ending : Char
  check : OrderCheck
deriving DecidableEq, Repr

structure Line where
  text : Text
  fields : List Text
deriving DecidableEq, Repr

def Form.fields (form : Form) (t : Text) : List Text :=
  match form.division with
  | .character c => if t.isEmpty then [] else partsAt c t
  | .nothing => if t.isEmpty then [] else [t]
  | .blanks =>
      let isBlank := fun c => c == ' ' || c == '\t' || c == '\n'
      let parts := List.splitBy (fun a b => isBlank a == isBlank b) t
      let trailing := (t.getLast?.map isBlank).getD false
      parts.filter (fun part => !(part.any isBlank)) ++
        if trailing && parts.length != 1 then [[]] else []

structure Side where
  name : Text
  lines : List Text
  number : Nat
  previous : Option Line
  isSuspect : Bool
  current : List Line

structure Progress where
  first : Side
  second : Side
  hasUnpaired : Bool
  counts : Nat × Nat

abbrev Joining := StateT Progress Activity

def Progress.side (progress : Progress) (isFirst : Bool) : Side :=
  if isFirst then progress.first else progress.second

def setSide (isFirst : Bool) (side : Side) : Joining Unit :=
  modify fun progress =>
    if isFirst then { progress with first := side } else { progress with second := side }

def Form.key (form : Form) (isFirst : Bool) : Nat :=
  if isFirst then form.firstKey else form.secondKey

def Form.compareKeys (form : Form) (a b : Option Text) : Ordering :=
  let key := fun (t : Option Text) =>
    let t := t.getD []
    if form.ignoresCase then t.map Char.toUpper else t
  Sorting.compareTexts (key a) (key b)

/-- Reads the next line of a side, and complains if it does not belong after the one before. -/
def readLine (form : Form) (isFirst : Bool) : Joining (Option Line) := do
  let progress ← get
  let side := progress.side isFirst
  match side.lines with
  | [] => return none
  | t :: rest =>
      let line : Line := ⟨t, form.fields t⟩
      let side := { side with lines := rest, number := side.number + 1, previous := some line }
      let key := form.key isFirst
      let isWrong := match (progress.side isFirst).previous with
        | some before => form.compareKeys before.fields[key]? line.fields[key]? == .gt
        | none => false
      let isDue := form.check == .always || (form.check == .whenUnpaired && progress.hasUnpaired)
      if isDue && isWrong && !side.isSuspect then
        let complaint := side.name ++ ':' :: Text.ofNat side.number ++ ": is not sorted: " ++ t
        if form.check == .always then fail 1 complaint
        remark complaint
        setSide isFirst { side with isSuspect := true }
      else setSide isFirst side
      return some line

def extend (form : Form) (isFirst : Bool) : Joining Bool := do
  match ← readLine form isFirst with
  | none => return false
  | some line =>
      let side := (← get).side isFirst
      setSide isFirst { side with current := side.current ++ [line] }
      return true

def renew (form : Form) (isFirst : Bool) : Joining Unit := do
  let side := (← get).side isFirst
  setSide isFirst { side with current := [] }
  let _ ← extend form isFirst

/-!
# Output
-/

def Form.separator (form : Form) : Char :=
  match form.division with
  | .blanks => ' '
  | .character c => c
  | .nothing => '\n'

def Form.fieldText (form : Form) (line : Option Line) (index : Nat) : Text :=
  match line.bind fun line => line.fields[index]? with
  | some [] | none => form.filler
  | some t => t

def Form.others (form : Form) (line : Option Line) (key count : Nat) : List Text :=
  let size := if form.pattern == .automatic then count
    else ((line.map fun line => line.fields.length).getD 0)
  ((List.range size).filter (· != key)).map (form.fieldText line)

def Form.joined (form : Form) (counts : Nat × Nat) (first second : Option Line) : Text :=
  let key := if first.isSome then form.fieldText first form.firstKey
    else form.fieldText second form.secondKey
  let fields :=
    match form.pattern with
    | .listed outputs => outputs.map fun
        | .key => key
        | .field true index => form.fieldText first index
        | .field false index => form.fieldText second index
    | _ => key :: form.others first form.firstKey counts.1 ++
        form.others second form.secondKey counts.2
  Text.joinWith [form.separator] fields ++ [form.ending]

def showJoined (form : Form) (first second : Option Line) : Joining Unit := do
  print (form.joined (← get).counts first second)

/-!
# Going through
-/

def collect (form : Form) (isFirst : Bool) (key : Option Text) : (fuel : Nat) →
    Joining (List Line × Bool)
  | 0 => return ([], false)
  | fuel + 1 => do
      if !(← extend form isFirst) then
        return (((← get).side isFirst).current, true)
      let lines := ((← get).side isFirst).current
      let last := (lines.getLast?.bind fun line => line.fields[form.key isFirst]?)
      if form.compareKeys last key == .eq then collect form isFirst key fuel
      else return (lines.dropLast, false)

def join (form : Form) : (fuel : Nat) → Joining Unit
  | 0 => return ()
  | fuel + 1 => do
      let progress ← get
      match progress.first.current, progress.second.current with
      | a :: _, b :: _ =>
          let keyA := a.fields[form.firstKey]?
          let keyB := b.fields[form.secondKey]?
          match form.compareKeys keyA keyB with
          | .lt =>
              if form.showsFirst then showJoined form (some a) none
              renew form true
              modify fun progress => { progress with hasUnpaired := true }
              join form fuel
          | .gt =>
              if form.showsSecond then showJoined form none (some b)
              renew form false
              modify fun progress => { progress with hasUnpaired := true }
              join form fuel
          | .eq =>
              let (firsts, firstIsOver) ← collect form true keyB (progress.first.lines.length + 1)
              let (seconds, secondIsOver) ←
                collect form false keyA (progress.second.lines.length + 1)
              if form.showsPairs then
                for x in firsts do
                  for y in seconds do
                    showJoined form (some x) (some y)
              let keep := fun (isFirst isOver : Bool) => (do
                let side := (← get).side isFirst
                let last := if isOver then [] else side.current.getLast?.toList
                setSide isFirst { side with current := last } : Joining Unit)
              keep true firstIsOver
              keep false secondIsOver
              join form fuel
      | _, _ => return ()

def drain (form : Form) (isFirst isShown : Bool) : (fuel : Nat) → Joining Unit
  | 0 => return ()
  | fuel + 1 => do
      match ← readLine form isFirst with
      | none => return ()
      | some line =>
          if isShown then
            if isFirst then showJoined form (some line) none else showJoined form none (some line)
          if ((← get).side isFirst).isSuspect && !isShown then return ()
          drain form isFirst isShown fuel

def finish (form : Form) (isFirst isShown checks : Bool) : Joining Unit := do
  let progress ← get
  let side := progress.side isFirst
  match side.current with
  | [] => return ()
  | line :: _ =>
      if !(isShown || checks) then return ()
      if isShown then
        if isFirst then showJoined form (some line) none else showJoined form none (some line)
      if !(progress.side (!isFirst)).current.isEmpty then
        modify fun progress => { progress with hasUnpaired := true }
      drain form isFirst isShown (side.lines.length + 1)

def joinAll (form : Form) (hasHeader : Bool) : Joining Unit := do
  let _ ← extend form true
  let _ ← extend form false
  let progress ← get
  let first := progress.first.current.head?
  let second := progress.second.current.head?
  let size := fun (line : Option Line) => ((line.map fun line => line.fields.length).getD 0)
  set { progress with counts := (size first, size second) }
  if hasHeader && (first.isSome || second.isSome) then
    showJoined form first second
    modify fun progress =>
      { progress with
        first := { progress.first with previous := none }
        second := { progress.second with previous := none } }
    if first.isSome then renew form true
    if second.isSome then renew form false
  join form (progress.first.lines.length + progress.second.lines.length + 3)
  let progress ← get
  let checks := form.check != .never && !(progress.first.isSuspect && progress.second.isSuspect)
  finish form true form.showsFirst checks
  finish form false form.showsSecond checks

/-!
# Options
-/

def index (t : Text) : Activity Nat := do
  match Text.digitsFrom? 0 t with
  | some (n + 1) => return n
  | _ => fail 1 ("invalid field number: " ++ quote t)

def isFirstFile (t : Text) : Activity Bool := do
  if t == "1" then return true
  else if t == "2" then return false
  else fail 1 ("invalid field number: " ++ quote t)

def output (t : Text) : Activity Output := do
  match t with
  | '0' :: rest =>
      if rest.isEmpty then return .key else fail 1 ("invalid field specifier: " ++ quote t)
  | file :: rest =>
      if file != '1' && file != '2' then
        fail 1 ("invalid file number in field spec: " ++ quote t)
      match rest with
      | '.' :: number => return .field (file == '1') (← index number)
      | _ => fail 1 ("invalid field specifier: " ++ quote t)
  | [] => fail 1 ("invalid file number in field spec: " ++ quote t)

def outputs (t : Text) : Activity (List Output) := do
  let mut found := []
  for part in (t.map fun c => if c == ' ' || c == '\t' then ',' else c) |> partsAt ',' do
    found := found ++ [← output part]
  return found

def isOutput (t : Text) : Bool :=
  match t with
  | ['0'] => true
  | c :: '.' :: digits => (c == '1' || c == '2') && !digits.isEmpty && digits.all Char.isDigit
  | _ => false

def gatherOutputs : (fuel : Nat) → List Text → List Text
  | 0, arguments => arguments
  | fuel + 1, arguments =>
      match arguments with
      | ['-', 'o'] :: first :: second :: rest =>
          if isOutput second && 2 ≤ (rest.filter fun t => t.head? != some '-').length then
            gatherOutputs fuel ("-o".toList :: (first ++ ',' :: second) :: rest)
          else "-o".toList :: first :: gatherOutputs fuel (second :: rest)
      | argument :: rest => argument :: gatherOutputs fuel rest
      | [] => []

def division (given : Given) : Activity Division := do
  let mut found : Option Division := none
  for t in given.values 't' do
    let division ←
      match t with
      | [] => pure Division.nothing
      | [c] => pure (Division.character c)
      | ['\\', '0'] => pure (Division.character '\x00')
      | _ => fail 1 ("multi-character tab " ++ quote t)
    match found with
    | some other => if other != division then fail 1 "incompatible tabs"
    | none => found := some division
  return found.getD .blanks

/-- The index that options with one of two keys give; they have to agree. -/
def keyOf (given : Given) (own : Char) : Activity Nat := do
  let mut found : Option Nat := none
  for option in given.options do
    if option.key == own || option.key == 'j' then
      let n ← index (option.value.getD [])
      match found with
      | some other =>
          if other != n then
            fail 1 ("incompatible join fields " ++ Text.ofNat other ++ ", " ++ Text.ofNat n)
      | none => found := some n
  return found.getD 0

end Join

def join : Program := fun arguments => do
  let forms : OptionForms :=
    { letters := "a:e:i1:2:j:o:t:v:z"
      words := ("ignore-case", 'i', .no) :: ("header", 'H', .no) ::
        ("zero-terminated", 'z', .no) :: OrderCheck.words
      isOrdered := false }
  let arguments := Join.gatherOutputs (2 * arguments.length + 1) arguments
  let given ← given 1 forms arguments
  let mut showsFirst := false
  let mut showsSecond := false
  for option in given.options do
    if option.key == 'a' || option.key == 'v' then
      if ← Join.isFirstFile (option.value.getD []) then showsFirst := true
      else showsSecond := true
  let fillers := given.values 'e'
  if fillers.any fun t => some t != fillers.head? then
    fail 1 "conflicting empty-field replacement strings"
  let mut pattern := Join.Pattern.all
  for t in given.values 'o' do
    if t == "auto" then pattern := .automatic
    else
      let more ← Join.outputs t
      pattern := match pattern with
        | .listed outputs => .listed (outputs ++ more)
        | _ => .listed more
  let firstKey ← Join.keyOf given '1'
  let secondKey ← Join.keyOf given '2'
  let division ← Join.division given
  let (firstName, secondName) ← demandTwo given.operands
  let form : Join.Form :=
    { division := division
      firstKey := firstKey
      secondKey := secondKey
      pattern := pattern
      filler := fillers.headD []
      ignoresCase := given.has 'i'
      showsFirst := showsFirst
      showsSecond := showsSecond
      showsPairs := !given.has 'v'
      ending := if given.has 'z' then '\x00' else '\n'
      check := OrderCheck.ofGiven given }
  let side := fun (name : Text) => (do
    match ← contents name with
    | .ok t => return ⟨name, records form.ending t, 0, none, false, []⟩
    | .error error =>
        fail 1 (if isReadFailure error then "read error: " ++ reason error
          else about name error) : Activity Join.Side)
  if firstName == "-" && secondName == "-" then fail 1 "both files cannot be standard input"
  let first ← side firstName
  let second ← side secondName
  let (_, progress) ← (Join.joinAll form (given.has 'H')).run ⟨first, second, false, 0, 0⟩
  if progress.first.isSuspect || progress.second.isSuspect then
    fail 1 "input is not in sorted order"

end Program
end Shell
end StubAssist
