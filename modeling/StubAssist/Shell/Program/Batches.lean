import StubAssist.Shell.Arithmetic
import StubAssist.Shell.Program

/-!
# Batches of arguments

Arguments are read from the input, as words or as lines, and handed to a program, as
many at a time as it may get.
-/

namespace StubAssist
namespace Shell
namespace Program

open Activity

namespace Batch

/-!
# Reading arguments
-/

structure Item where
  text : Text
  endsLine : Bool
deriving DecidableEq, Repr

/-- What there was to read, up to a quote that is never closed. -/
structure Reading where
  items : List Item
  unclosed : Option Char
deriving DecidableEq, Repr

def Reading.add (item : Item) (reading : Reading) : Reading :=
  { reading with items := item :: reading.items }

/--
Reads words, in which quotes and backslashes hide other characters; with `byLine`, blanks
do not end them.  `word` is what has been read of a word, the last character first.
-/
def readWords (byLine : Bool) : (quote : Option Char) → (word : Option Text) →
    (before : Char) → Text → Reading
  | some quote, _, _, [] => ⟨[], some quote⟩
  | none, word, _, [] =>
      ⟨(word.filter (!·.isEmpty)).toList.map fun word => ⟨word.reverse, false⟩, none⟩
  | none, word, _, '\\' :: c :: rest => readWords byLine none (some (c :: word.getD [])) c rest
  | none, word, _, ['\\'] => readWords byLine none word '\\' []
  | some quote, word, _, c :: rest =>
      if c == '\n' then ⟨[], some quote⟩
      else if c == quote then readWords byLine none word c rest
      else readWords byLine (some quote) (some (c :: word.getD [])) c rest
  | none, none, _, c :: rest =>
      if isSpace c then readWords byLine none none c rest
      else if c == '\'' || c == '"' then readWords byLine (some c) (some []) c rest
      else readWords byLine none (some [c]) c rest
  | none, some word, before, c :: rest =>
      if c == '\n' then
        (readWords byLine none none c rest).add ⟨word.reverse, !isBlank before⟩
      else if !byLine && isBlank c then
        (readWords byLine none none c rest).add ⟨word.reverse, false⟩
      else if c == '\'' || c == '"' then readWords byLine (some c) (some word) c rest
      else readWords byLine none (some (c :: word)) c rest
termination_by _ _ _ t => t.length

def delimiter (t : Text) : Except Text Char :=
  match t with
  | [c] => .ok c
  | '\\' :: 'x' :: digits =>
      .ok (Char.ofNat ((Arithmetic.readDigits 16 0 digits).1 % 256))
  | ['\\', c] =>
      match c with
      | 'a' => .ok '\x07'
      | 'b' => .ok '\x08'
      | 'f' => .ok '\x0c'
      | 'n' => .ok '\n'
      | 'r' => .ok '\x0d'
      | 't' => .ok '\t'
      | 'v' => .ok '\x0b'
      | '\\' => .ok '\\'
      | '0' => .ok '\x00'
      | _ =>
          .error ("Invalid escape sequence " ++ t ++ " in input delimiter specification.")
  | _ =>
      .error ("Invalid input delimiter specification " ++ t ++ ": the delimiter must be either " ++
        "a single character or an escape sequence starting with \\.")

/-!
# Options
-/

inductive Size where
  | all
  | words (count : Nat)
  | lines (count : Nat)
  | inPlaceOf (t : Text)
deriving DecidableEq, Repr

def number (key : Char) (least : Nat) (t : Text) : Activity Nat := do
  let (isNegative, digits) := match t with
    | '-' :: rest => (true, rest)
    | '+' :: rest => (false, rest)
    | _ => (false, t)
  match if digits.isEmpty then none else Text.digitsFrom? 0 digits with
  | none => misuse 1 ("invalid number \"" ++ t ++ "\" for -" ++ [key] ++ " option")
  | some n =>
      if isNegative || n < least then
        let complaint := "value " ++ t ++ " for -" ++ key :: " option should be >= ".toList ++
          Text.ofNat least
        if key == 's' then
          remark complaint
          return least
        misuse 1 complaint
      return n

def warn (option other kept : Text) : Activity Unit :=
  remark ("warning: options " ++ option ++ " and " ++ other ++
    " are mutually exclusive, ignoring previous " ++ kept ++ " value")

def Size.change (size : Size) (option : GivenOption) : Activity Size := do
  let value := option.value
  match option.key with
  | 'I' | 'i' =>
      let t := value.getD "\x7b\x7d".toList
      match size with
      | .words _ => warn "--max-args" "--replace/-I/-i" "--max-args"
      | .lines _ => warn "--max-lines" "--replace/-I/-i" "--max-lines"
      | _ => pure ()
      return .inPlaceOf t
  | 'n' =>
      let count ← number 'n' 1 (value.getD [])
      match size with
      | .inPlaceOf _ =>
          if count == 1 then return size
          warn "--replace" "--max-args/-n" "--replace"
      | .lines _ => warn "--max-lines" "--max-args/-n" "--max-lines"
      | _ => pure ()
      return .words count
  | 'L' | 'l' =>
      let count ← number option.key 1 (value.getD ['1'])
      let name : Text := if option.key == 'L' then "-L" else "--max-lines/-l"
      match size with
      | .inPlaceOf _ => warn "--replace" name "--replace"
      | .words _ => warn "--max-args" name "--max-args"
      | _ => pure ()
      return .lines count
  | _ => return size

/-!
# Batches
-/

def room (arguments : List Text) : Nat :=
  Text.total (arguments.map fun t => t.length + 1)

/--
Items in batches, each within the size and the room that is left; what does not fit in a
batch of its own is told apart.  `batch` is what has been put into the first batch, the
latest first.
-/
def split (size : Size) (space : Nat) : (batch : List Text) → (lines : Nat) → List Item →
    List (List Text) × Bool
  | [], _, [] => ([], true)
  | batch, _, [] => ([batch.reverse], true)
  | batch, lines, item :: rest =>
      let isFull := match size with
        | .all => false
        | .words count => count ≤ batch.length
        | .lines count => count ≤ lines
        | .inPlaceOf _ => !batch.isEmpty
      let needed := item.text.length + 1
      let starts := isFull || space < room batch + needed
      let closed := if starts && !batch.isEmpty then [batch.reverse] else []
      if space < needed then (if batch.isEmpty then [] else [batch.reverse], false)
      else
        let batch := if starts then [] else batch
        let lines := (if starts then 0 else lines) + if item.endsLine then 1 else 0
        let (more, isWhole) := split size space (item.text :: batch) lines rest
        (closed ++ more, isWhole)

def substitute (pattern new : Text) : (fuel : Nat) → Text → Text
  | 0, t => t
  | _, [] => []
  | fuel + 1, c :: rest =>
      match if pattern.isEmpty then none else Text.afterPrefix? pattern (c :: rest) with
      | some after => new ++ substitute pattern new fuel after
      | none => c :: substitute pattern new fuel rest

/-- Runs a program on one batch; gives up where nothing more is to be run. -/
def runOne (readsNothing isTold : Bool) (words : List Text) : Activity Unit := do
  let name := words.headD []
  if isTold then
    writeTo .complaints (Text.joinWith [' '] (words.map quoteIfNeeded) ++ ['\n'])
  let errand := Errand.plain name (words.drop 1) (← surroundings).environment
  match ← call { errand with readsNothing := readsNothing } with
  | .notStarted error =>
      fail (if error == .notFound then 127 else 126) (name ++ ": " ++ reason error)
  | .ended (.code 0) => return ()
  | .ended (.code 255) => fail 124 (name ++ ": exited with status 255; aborting")
  | .ended (.code _) => setStatus 123
  | .ended (.signal signal) | .interrupted (.signal signal) =>
      fail 125 (name ++ ": terminated by signal " ++ Text.ofNat signal)
  | .interrupted (.code _) => setStatus 123

end Batch

open Batch in
def xargs : Program := fun arguments => do
  let forms : OptionForms :=
    { letters := "0a:d:E:e::I:i::L:l::n:prs:txP:"
      words := [("null", '0', .no), ("arg-file", 'a', .yes), ("delimiter", 'd', .yes),
        ("eof", 'e', .maybe), ("replace", 'i', .maybe), ("max-lines", 'l', .maybe),
        ("max-args", 'n', .yes), ("interactive", 'p', .no), ("no-run-if-empty", 'r', .no),
        ("max-chars", 's', .yes), ("verbose", 't', .no), ("exit", 'x', .no),
        ("max-procs", 'P', .yes), ("open-tty", 'o', .no)]
      isOrdered := true }
  let given ← given 1 forms arguments
  let mut size := Size.all
  let mut ending : Option Char := none
  for option in given.options do
    size ← size.change option
    match option.key, option.value with
    | '0', _ => ending := some '\x00'
    | 'd', some t =>
        match delimiter t with
        | .ok c => ending := some c
        | .error flaw => fail 1 flaw
    | 'P', some t => discard (number 'P' 0 t)
    | _, _ => pure ()
  let greatest := Nat.pow 2 17
  let space ←
    match given.value? 's' with
    | some t => pure (min (← number 's' 1 t) greatest)
    | none => pure greatest
  let mut failure : Option FileError := none
  let input ←
    match given.value? 'a' with
    | none =>
        match ← contents ['-'] with
        | .ok t => pure t
        | .error error =>
            failure := some error
            pure []
    | some path =>
        match ← contents path with
        | .ok t => pure t
        | .error error =>
            fail 1 ("Cannot open input file " ++ quoteName path ++ ": " ++ reason error)
  let byLine := size matches .inPlaceOf _
  let reading : Reading :=
    match ending with
    | some c => ⟨(records c input).map (⟨·, true⟩), none⟩
    | none => readWords byLine none none '\n' input
  let last := if ending.isSome then none
    else ((given.last? "Ee").bind (·.value)).filter (!·.isEmpty)
  let isStopped := reading.items.any fun item => some item.text == last
  let items := reading.items.takeWhile fun item => some item.text != last
  let command := if given.operands.isEmpty then ["echo".toList] else given.operands
  let taken := room command
  if space < taken then fail 1 "cannot fit single argument within argument list size limit"
  let (batches, isWhole) := split size (space - taken) [] 0 items
  let isUnclosed := reading.unclosed.isSome && !isStopped
  let batches := if batches.isEmpty && isWhole && !isUnclosed && !byLine && !given.has 'r'
    then [[]] else batches
  for batch in batches do
    let words :=
      match size with
      | .inPlaceOf t =>
          command.take 1 ++ (command.drop 1).map fun word =>
            substitute t (batch.headD []) (word.length + 1) word
      | _ => command ++ batch
    runOne (!given.has 'a') (given.has 't' || given.has 'p') words
  if !isWhole then fail 1 "argument line too long"
  match if isUnclosed then reading.unclosed else none with
  | some quote =>
      fail 1 ("unmatched " ++ (if quote == '"' then "double" else "single").toList ++
        " quote; by default quotes are special to xargs unless you use the -0 option")
  | none => pure ()
  match failure with
  | some error =>
      let detail : Text := if (← surroundings).hasInput then [] else ": " ++ reason error
      fail 1 ("error closing file" ++ detail)
  | none => return ()

end Program
end Shell
end StubAssist
