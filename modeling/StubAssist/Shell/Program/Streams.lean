import StubAssist.Shell.Format
import StubAssist.Shell.Program

/-!
# Whole texts

Programs that print texts as they are, or in another order, or with marks for what
cannot be seen in them.
-/

namespace StubAssist
namespace Shell
namespace Program

open Activity

/-!
# One text after the other
-/

namespace Cat

/-- What is shown of a text besides what can be seen of it. -/
structure Form where
  numbersLines : Bool
  skipsEmpty : Bool
  squeezes : Bool
  marksEnds : Bool
  marksTabs : Bool
  marksControls : Bool
deriving DecidableEq, Repr

structure Place where
  number : Nat
  emptyLines : Nat
  isAtStart : Bool
deriving DecidableEq, Repr

def mark (form : Form) (c : Char) : Text :=
  if c == '\t' then if form.marksTabs then "^I" else [c]
  else if !form.marksControls then [c]
  else
    let low := Char.ofNat (c.toNat % 128)
    let plain : Text :=
      if low < ' ' then ['^', Char.ofNat (low.toNat + 64)]
      else if low.toNat == 127 then "^?" else [low]
    if c.toNat < 128 then plain else 'M' :: '-' :: plain

def number (n : Nat) : Text :=
  alignRight 6 (Text.ofNat n) ++ ['\t']

def showPiece (form : Form) (place : Place) (piece : Text) : Text × Place :=
  let (line, isEnded) := unended '\n' piece
  let isEmpty := line.isEmpty && place.isAtStart
  let emptyLines := if isEmpty then place.emptyLines + 1 else 0
  if isEmpty && form.squeezes && 2 ≤ emptyLines then ([], { place with emptyLines := emptyLines })
  else
    let hasNumber := place.isAtStart && form.numbersLines && !(isEmpty && form.skipsEmpty)
    let hasReturn := form.marksEnds && isEnded && line.getLast? == some '\r'
    let plain := if hasReturn then line.dropLast else line
    let ending : Text :=
      (if hasReturn then "^M" else "") ++ (if form.marksEnds && isEnded then "$" else "") ++
        if isEnded then "\n" else ""
    ((if hasNumber then number (place.number + 1) else []) ++ plain.flatMap (mark form) ++ ending,
      { number := if hasNumber then place.number + 1 else place.number
        emptyLines := emptyLines
        isAtStart := isEnded })

def forms : OptionForms where
  letters := "benstuvAET"
  words := [("number-nonblank", 'b', .no), ("number", 'n', .no), ("squeeze-blank", 's', .no),
    ("show-nonprinting", 'v', .no), ("show-ends", 'E', .no), ("show-tabs", 'T', .no),
    ("show-all", 'A', .no)]
  isOrdered := false

end Cat

def cat : Program := fun arguments => do
  let given ← given 1 Cat.forms arguments
  let has := fun (keys : Text) => keys.any given.has
  let form : Cat.Form :=
    { numbersLines := has "nb"
      skipsEmpty := has "b"
      squeezes := has "s"
      marksEnds := has "AeE"
      marksTabs := has "AtT"
      marksControls := has "Aetv" }
  let isPlain := !has "nbsAeEtTv"
  if !(← surroundings).hasOutput then fail 1 ("standard output: " ++ reason .badDescriptor)
  let mut place : Cat.Place := ⟨0, 0, true⟩
  for operand in orInput given.operands do
    match ← operandIntake operand with
    | .error error => complain (about operand error)
    | .ok intake =>
        if !intake.text.isEmpty && (← isOutput operand) then
          complain (quoteTopic operand ++ ": input file is output file")
        else if isPlain then print (if intake.isEndless then sample intake.text else intake.text)
        else
          for piece in pieces '\n' intake.text do
            let (shown, next) := Cat.showPiece form place piece
            print shown
            place := next
        if intake.hasMore then continueForever
  checkInput "closing standard input" given.operands

/-!
# Another order
-/

def piecesAround (separator : Text) (comesFirst : Bool) :
    (fuel : Nat) → (piece : Text) → (found : List Text) → Text → List Text
  | 0, _, found, _ => found
  | _ + 1, piece, found, [] => (piece.reverse :: found)
  | fuel + 1, piece, found, c :: rest =>
      match Text.afterPrefix? separator (c :: rest) with
      | some after =>
          if comesFirst then
            piecesAround separator comesFirst fuel separator.reverse (piece.reverse :: found) after
          else
            piecesAround separator comesFirst fuel [] ((piece.reverse ++ separator) :: found) after
      | none => piecesAround separator comesFirst fuel (c :: piece) found rest

def tac : Program := fun arguments => do
  let forms : OptionForms :=
    { letters := "brs:"
      words := [("before", 'b', .no), ("regex", 'r', .no), ("separator", 's', .yes)]
      isOrdered := false }
  let given ← given 1 forms arguments
  let separator := (given.value? 's').getD ['\n']
  for operand in orInput given.operands do
    match ← contents operand with
    | .ok t => print (piecesAround separator (given.has 'b') (t.length + 2) [] [] t).flatten
    | .error error =>
        if isReadFailure error then
          let error := if operand == "-" && error == .isADirectory then .invalidArgument else error
          complain (quoteTopic (sourceName operand) ++ ": read error: " ++ reason error)
        else complain ("failed to open " ++ quoteName operand ++ " for reading: " ++ reason error)
  checkInput "-" given.operands

def rev : Program := fun arguments => do
  let given ← given 1 ⟨"0hV", [("zero", '0', .no)], false⟩ arguments
  eachFlow (fun operand error => "cannot open " ++ operand ++ ": " ++ reason error) '\n'
    given.operands fun t => do
      for piece in pieces '\n' t do
        let (line, isEnded) := unended '\n' piece
        print (line.reverse ++ if isEnded then ['\n'] else [])

/-!
# Several places
-/

def writeAt (path : Text) (keeps : Bool) (t : Text) : Activity (Except FileError Unit) := do
  match descriptorAt? path with
  | some 1 =>
      print t
      return .ok ()
  | some 2 =>
      writeTo .complaints t
      return .ok ()
  | _ =>
      match (← files).store path keeps (Octets.bytes t) with
      | .ok files =>
          setFiles files
          return .ok ()
      | .error error => return .error error

def tee : Program := fun arguments => do
  let forms : OptionForms :=
    { letters := "aip"
      words := [("append", 'a', .no), ("ignore-interrupts", 'i', .no),
        ("output-error", 'p', .maybe)]
      isOrdered := false }
  let given ← given 1 forms arguments
  let keeps := given.has 'a'
  let mut opened := []
  for path in given.operands do
    match ← writeAt path keeps [] with
    | .ok () => opened := path :: opened
    | .error error => complain (about path error)
  match ← flow "-" with
  | .error error =>
      complain ("read error: " ++ reason error)
      checkInput "standard input" []
  | .ok (t, hasMore) =>
      print t
      for path in opened.reverse do
        match ← writeAt path true t with
        | .ok () => pure ()
        | .error error => complain (about path error)
      if hasMore then continueForever

/-!
# Text without input
-/

def writeAgain (t : Text) : (rounds : Nat) → Activity Unit
  | 0 => continueForever
  | rounds + 1 => do
      print t
      pause 0
      writeAgain t rounds

/-- Writes the same line again and again; a good deal of it stands for all. -/
def yes : Program := fun arguments => do
  let given ← given 1 ⟨[], [], true⟩ arguments
  let words := if given.operands.isEmpty then [['y']] else given.operands
  let line := Text.joinWith [' '] words ++ ['\n']
  writeAgain (List.replicate (4096 / line.length + 1) line).flatten 256

/-- Options of `echo`, which are no options if any of their letters is another one. -/
def echoOptions : List Text → Text × List Text
  | [] => ([], [])
  | a :: rest =>
      match a with
      | '-' :: c :: letters =>
          if (c :: letters).all fun c => c == 'n' || c == 'e' || c == 'E' then
            let (more, operands) := echoOptions rest
            (c :: letters ++ more, operands)
          else ([], a :: rest)
      | _ => ([], a :: rest)

/-- Prints its arguments, with their escapes expanded only if that is asked for. -/
def echo : Program := fun arguments => do
  let (letters, operands) := echoOptions arguments
  let line := Text.joinWith [' '] operands
  let expands := (letters.reverse.find? (· != 'n')) == some 'e'
  let (t, isStopped) :=
    if expands then
      let (bytes, isStopped) := Format.expand (line.length + 1) line
      (Octets.ofBytes bytes, isStopped)
    else (line, false)
  print (t ++ if isStopped || List.contains letters 'n' then [] else ['\n'])

end Program
end Shell
end StubAssist
