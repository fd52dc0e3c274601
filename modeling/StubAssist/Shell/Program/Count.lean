import StubAssist.Shell.Program

/-!
# Counting

How many lines, words and bytes texts have, and lines with their numbers.
-/

namespace StubAssist
namespace Shell
namespace Program

open Activity

/-!
# Sizes of texts
-/

structure Tally where
  lines : Nat
  words : Nat
  bytes : Nat
  width : Nat
deriving DecidableEq, Repr

namespace Tally

/-- A tally with where it has come to: the column, and whether that is inside of a word. -/
structure Progress where
  tally : Tally
  column : Nat
  isInWord : Bool
deriving DecidableEq, Repr

def Progress.endLine (progress : Progress) : Progress :=
  { tally := { progress.tally with width := max progress.tally.width progress.column }
    column := 0
    isInWord := false }

def step (progress : Progress) (c : Char) : Progress :=
  let counted :=
    { progress with tally := { progress.tally with bytes := progress.tally.bytes + 1 } }
  if c == '\n' then
    let tally := { counted.tally with lines := counted.tally.lines + 1 }
    { counted with tally := tally }.endLine
  else if c == '\r' || c == '\x0c' then counted.endLine
  else if c == '\t' then
    { counted with column := (counted.column / 8 + 1) * 8, isInWord := false }
  else if c == ' ' then { counted with column := counted.column + 1, isInWord := false }
  else if c == '\x0b' then { counted with isInWord := false }
  else if isPrintable c then
    let words := counted.tally.words + if counted.isInWord then 0 else 1
    { tally := { counted.tally with words := words }
      column := counted.column + 1
      isInWord := true }
  else counted

def ofText (t : Text) : Tally :=
  (t.foldl step ⟨⟨0, 0, 0, 0⟩, 0, false⟩).endLine.tally

def add (a b : Tally) : Tally :=
  ⟨a.lines + b.lines, a.words + b.words, a.bytes + b.bytes, max a.width b.width⟩

def numbers (letters : Text) (tally : Tally) : List Nat :=
  let all : List (Char × Nat) := [('l', tally.lines), ('w', tally.words), ('m', tally.bytes),
    ('c', tally.bytes), ('L', tally.width)]
  (all.filter fun (letter, _) => List.contains letters letter).map (·.2)

def row (letters : Text) (width : Nat) (name : Text) (tally : Tally) : Text :=
  let numbers := (tally.numbers letters).map fun n => alignRight width (Text.ofNat n)
  Text.joinWith [' '] (numbers ++ if name.isEmpty then [] else [name])

/-- The columns for a number: enough for the size of all files, and more if that is not known. -/
def columns (sizes : List (Option (Option Nat))) : Nat :=
  let known := sizes.filterMap id
  let total := Text.total (known.filterMap id)
  max (if known.any (·.isNone) then 7 else 1) (Text.ofNat total).length

def forms : OptionForms where
  letters := "clLmw"
  words := [("bytes", 'c', .no), ("chars", 'm', .no), ("lines", 'l', .no), ("words", 'w', .no),
    ("max-line-length", 'L', .no), ("files0-from", 'F', .yes), ("total", 'T', .yes)]
  isOrdered := false

inductive Find where
  | text (intake : Intake)
  | unreadable (error : FileError)
  | flawed (reason : Text)
deriving DecidableEq, Repr

def operandsOf (given : Given) : Activity (List Text × Option NameList) := do
  match given.value? 'F' with
  | none => return (orInput given.operands, none)
  | some path =>
      NameList.refuseOthers 1 given.operands
      match ← operandIntake path with
      | .ok intake =>
          if intake.hasMore then continueForever
          return (records '\x00' intake.text, some ⟨path, intake.size.isSome⟩)
      | .error error =>
          fail 1 (if isReadFailure error then quoteTopic path ++ ": read error: " ++ reason error
            else unopened path error)

end Tally

def wc : Program := fun arguments => do
  let given ← given 1 Tally.forms arguments
  let asked := "lwmcL".toList.filter given.has
  let letters := if asked.isEmpty then "lwc".toList else asked
  let total := (given.value? 'T').getD "auto"
  let (operands, list) ← Tally.operandsOf given
  let flaws := operands.mapIdx fun i operand =>
    match list with
    | some list => list.flaw? (i + 1) operand
    | none => if operand.isEmpty then some "invalid zero-length file name" else none
  let mut found : List (Text × Option (Option Nat) × Tally.Find) := []
  for (operand, flaw) in operands.zip flaws do
    match flaw with
    | some flaw => found := (operand, none, .flawed flaw) :: found
    | none =>
        match ← operandIntake operand with
        | .ok intake => found := (operand, some intake.size, .text intake) :: found
        | .error error =>
            let size := if error == .isADirectory then some none else none
            found := (operand, size, .unreadable error) :: found
  let isAlone := operands.length == 1 && letters.length == 1
  let isNarrow := isAlone || total == "only" || list.any (!·.isSized)
  let width := if isNarrow then 1 else Tally.columns (found.map (·.2.1)).reverse
  let mut sum : Tally := ⟨0, 0, 0, 0⟩
  for (operand, _, find) in found.reverse do
    let isUnnamed := given.operands.isEmpty && list.isNone
    let name := if isUnnamed then [] else operand
    let tally ← match find with
      | .text intake =>
          if intake.hasMore then continueForever
          pure (some (Tally.ofText intake.text))
      | .unreadable error =>
          complain (about (if isUnnamed then sourceName operand else operand) error)
          pure (if isReadFailure error then some ⟨0, 0, 0, 0⟩ else none)
      | .flawed flaw =>
          complain flaw
          pure none
    match tally with
    | some tally =>
        sum := sum.add tally
        if total != "only" then printLine (tally.row letters width name)
    | none => pure ()
  if total == "only" then printLine (sum.row letters width [])
  else if total == "always" || (total != "never" && 1 < operands.length) then
    printLine (sum.row letters width "total")
  checkInput "-" operands

/-!
# Numbered lines
-/

namespace Numbering

inductive Section where
  | header
  | body
  | footer
deriving DecidableEq, Repr

inductive Style where
  | all
  | filled
  | none
deriving DecidableEq, Repr

structure Form where
  style : Section → Style
  delimiter : Text
  step : Int
  start : Int
  blanks : Nat
  alignment : Text
  restarts : Bool
  separator : Text
  width : Nat

structure Place where
  number : Int
  part : Section
  blanks : Nat

def showNumber (form : Form) (n : Int) : Text :=
  let digits := Text.ofNat n.natAbs
  let sign : Text := if n < 0 then "-" else []
  if form.alignment == "ln" then alignLeft form.width (sign ++ digits)
  else if form.alignment == "rz" then
    sign ++ List.replicate (form.width - sign.length - digits.length) '0' ++ digits
  else alignRight form.width (sign ++ digits)

def section? (form : Form) (line : Text) : Option Section :=
  let d := form.delimiter
  if d.isEmpty then .none
  else if line == d ++ d ++ d then some .header
  else if line == d ++ d then some .body
  else if line == d then some .footer
  else .none

def showLine (form : Form) (place : Place) (line : Text) : Text × Place :=
  match section? form line with
  | some part =>
      let restarts := part == .header && form.restarts
      (['\n'], { place with part := part, number := if restarts then form.start else place.number })
  | .none =>
      let blanks := if line.isEmpty then place.blanks + 1 else 0
      let isNumbered := match form.style place.part with
        | .all => !line.isEmpty || blanks == form.blanks
        | .filled => !line.isEmpty
        | .none => false
      if isNumbered then
        (showNumber form place.number ++ form.separator ++ line ++ ['\n'],
          { place with number := place.number + form.step, blanks := 0 })
      else
        (List.replicate (form.width + form.separator.length) ' ' ++ line ++ ['\n'],
          { place with blanks := blanks })

def forms : OptionForms where
  letters := "b:d:f:h:i:l:n:ps:v:w:"
  words := [("body-numbering", 'b', .yes), ("section-delimiter", 'd', .yes),
    ("footer-numbering", 'f', .yes), ("header-numbering", 'h', .yes),
    ("line-increment", 'i', .yes), ("join-blank-lines", 'l', .yes),
    ("number-format", 'n', .yes), ("no-renumber", 'p', .no),
    ("number-separator", 's', .yes), ("starting-line-number", 'v', .yes),
    ("number-width", 'w', .yes)]
  isOrdered := false

def style (given : Given) (key : Char) (what : Text) (default : Style) : Activity Style := do
  match given.value? key with
  | .none => return default
  | some ['a'] => return .all
  | some ['t'] => return .filled
  | some ['n'] => return .none
  | some other => misuse 1 ("invalid " ++ what ++ " numbering style: " ++ quote other)

def integer? (t : Text) : Option Int :=
  match t with
  | '-' :: digits =>
      if digits.isEmpty then .none else (Text.digitsFrom? 0 digits).map (- Int.ofNat ·)
  | _ => (Text.toWord? t).map Int.ofNat

def number (given : Given) (key : Char) (what : Text) (least default : Int) : Activity Int := do
  match given.value? key with
  | .none => return default
  | some t =>
      match integer? t with
      | some n =>
          if least ≤ n then return n
          else fail 1 ("invalid " ++ what ++ ": " ++ quote t ++
            if n ≤ 0 then ": Numerical result out of range" else "")
      | .none => fail 1 ("invalid " ++ what ++ ": " ++ quote t)

end Numbering

def nl : Program := fun arguments => do
  let given ← given 1 Numbering.forms arguments
  let header ← Numbering.style given 'h' "header" .none
  let body ← Numbering.style given 'b' "body" .filled
  let footer ← Numbering.style given 'f' "footer" .none
  let start ← Numbering.number given 'v' "starting line number" (-Int.pow 2 63) 1
  let step ← Numbering.number given 'i' "line number increment" (-Int.pow 2 63) 1
  let blanks ← Numbering.number given 'l' "line number of blank lines" 1 1
  let width ← Numbering.number given 'w' "line number field width" 1 6
  let alignment := (given.value? 'n').getD "rn"
  if !(["ln", "rn", "rz"] : List Text).contains alignment then
    misuse 1 ("invalid line numbering format: " ++ quote alignment)
  let mark := (given.value? 'd').getD "\\:"
  let mark := if mark.length == 1 then mark ++ [':'] else mark
  let form : Numbering.Form :=
    { style := fun
        | .header => header
        | .body => body
        | .footer => footer
      delimiter := mark
      step := step
      start := start
      blanks := blanks.toNat
      alignment := alignment
      restarts := !given.has 'p'
      separator := (given.value? 's').getD ['\t']
      width := width.toNat }
  let mut place : Numbering.Place := ⟨start, .body, 0⟩
  for operand in orInput given.operands do
    match ← flow operand with
    | .ok (t, hasMore) =>
        for line in lines (if hasMore then endedLines '\n' t else t) do
          let (shown, next) := Numbering.showLine form place line
          print shown
          place := next
        if hasMore then continueForever
    | .error error => complain (about operand error)
  checkInput "-" given.operands

end Program
end Shell
end StubAssist
