import StubAssist.Shell.Program

/-!
# Columns

Taking parts out of lines, and putting lines side by side.
-/

namespace StubAssist
namespace Shell
namespace Program

open Activity

/-!
# Parts of lines
-/

/-- Positions from one to another; without a last one, all that follow. -/
structure Span where
  first : Nat
  last : Option Nat
deriving DecidableEq, Repr

namespace Span

inductive Kind where
  | fields
  | bytes
deriving DecidableEq, Repr

def numberedFromOne : Kind → Text
  | .fields => "fields are numbered from 1"
  | .bytes => "byte/character positions are numbered from 1"

structure Reading where
  found : List Span
  value : Nat
  start : Option Nat
  hasStart : Bool
  hasValue : Bool

def Reading.fresh (found : List Span) : Reading :=
  ⟨found, 0, none, false, false⟩

def close (kind : Kind) (reading : Reading) : Except Text Reading :=
  match reading.start with
  | some first =>
      if !reading.hasStart && !reading.hasValue then .error "invalid range with no endpoint: -"
      else if !reading.hasValue then .ok (.fresh (⟨first, none⟩ :: reading.found))
      else if reading.value < first then .error "invalid decreasing range"
      else .ok (.fresh (⟨first, some reading.value⟩ :: reading.found))
  | none =>
      if reading.value == 0 then .error (numberedFromOne kind)
      else .ok (.fresh (⟨reading.value, some reading.value⟩ :: reading.found))

def readFrom (kind : Kind) : (fuel : Nat) → Reading → Text → Except Text Reading
  | 0, reading, _ => .ok reading
  | _, reading, [] => close kind reading
  | fuel + 1, reading, c :: rest =>
      if c == '-' then
        if reading.start.isSome then
          .error (if kind == .fields then "invalid field range"
            else "invalid byte or character range")
        else if reading.hasValue && reading.value == 0 then .error (numberedFromOne kind)
        else
          readFrom kind fuel
            { reading with
              start := some (if reading.hasValue then reading.value else 1)
              hasStart := reading.hasValue
              hasValue := false
              value := 0 } rest
      else if c == ',' || c == ' ' || c == '\t' then do
        readFrom kind fuel (← close kind reading) rest
      else if c.isDigit then
        let digits := (c :: rest).takeWhile Char.isDigit
        let value := (Text.digitsFrom? 0 digits).getD 0
        if Nat.pow 2 64 - 1 ≤ value then
          let what : Text := if kind == .fields then "field number " else "byte/character offset "
          .error (what ++ quote digits ++ " is too large")
        else
          readFrom kind fuel { reading with value := value, hasValue := true }
            (rest.dropWhile Char.isDigit)
      else
        let what : Text := if kind == .fields then "invalid field value "
          else "invalid byte/character position "
        .error (what ++ quote (c :: rest))

/-- Puts spans together that share positions; they come in the order of their starts. -/
def merge : List Span → List Span
  | [] => []
  | span :: rest =>
      match merge rest with
      | [] => [span]
      | next :: others =>
          match span.last with
          | none => [span]
          | some last =>
              if last < next.first then span :: next :: others
              else ⟨span.first, next.last.map (max last)⟩ :: others

def parse (kind : Kind) (t : Text) : Except Text (List Span) := do
  let reading ← readFrom kind (t.length + 1) (.fresh []) t
  return merge (reading.found.mergeSort fun a b => decide (a.first ≤ b.first))

def complement : (start : Nat) → List Span → List Span
  | start, [] => [⟨start, none⟩]
  | start, span :: rest =>
      let before := if start < span.first then [⟨start, some (span.first - 1)⟩] else []
      match span.last with
      | none => before
      | some last => before ++ complement (last + 1) rest

def select {α : Type} (spans : List Span) (all : List α) : List (List α) :=
  spans.filterMap fun span =>
    let found := (all.drop (span.first - 1)).take
      ((span.last.getD all.length) + 1 - span.first)
    if found.isEmpty then none else some found

end Span

namespace Cut

def forms : OptionForms where
  letters := "b:c:d:f:nsz"
  words := [("bytes", 'b', .yes), ("characters", 'c', .yes), ("fields", 'f', .yes),
    ("delimiter", 'd', .yes), ("only-delimited", 's', .no), ("output-delimiter", 'O', .yes),
    ("complement", 'C', .no), ("zero-terminated", 'z', .no)]
  isOrdered := false

def fieldsOf (spans : List Span) (delimiter : Char) (joint : Text) (demandsDelimiter : Bool)
    (line : Text) : Option Text :=
  if !List.contains line delimiter then (if demandsDelimiter then none else some line)
  else some (Text.joinWith joint (Span.select spans (partsAt delimiter line)).flatten)

end Cut

def cut : Program := fun arguments => do
  let given ← given 1 Cut.forms arguments
  let lists := given.options.filter fun option => List.contains "bcf".toList option.key
  match lists with
  | [] => misuse 1 "you must specify a list of bytes, characters, or fields"
  | _ :: _ :: _ => misuse 1 "only one list may be specified"
  | [⟨key, list⟩] =>
      let kind : Span.Kind := if key == 'f' then .fields else .bytes
      let delimiter := (given.value? 'd').getD ['\t']
      if 1 < delimiter.length then misuse 1 "the delimiter must be a single character"
      if kind == .bytes && given.has 'd' then
        misuse 1 "an input delimiter may be specified only when operating on fields"
      if kind == .bytes && given.has 's' then
        misuse 1
          "suppressing non-delimited lines makes sense\n\tonly when operating on fields"
      match Span.parse kind (list.getD []) with
      | .error flaw => misuse 1 flaw
      | .ok spans =>
          let spans := if given.has 'C' then Span.complement 1 spans else spans
          let delimiter := delimiter.headD '\x00'
          let ending := if given.has 'z' then '\x00' else '\n'
          let part : Text → Option Text := match kind with
            | .fields =>
                Cut.fieldsOf spans delimiter ((given.value? 'O').getD [delimiter]) (given.has 's')
            | .bytes => fun line =>
                some (Text.joinWith ((given.value? 'O').getD []) (Span.select spans line))
          eachFlow about ending given.operands fun t => do
            for line in records ending t do
              match part line with
              | some found => print (found ++ [ending])
              | none => pure ()
          checkInput "-" given.operands

/-!
# Lines side by side
-/

namespace Paste

def delimiters : Text → List Text
  | [] => []
  | ['\\'] => []
  | '\\' :: c :: rest =>
      let delimiter : Text := match c with
        | '0' => []
        | 'b' => ['\x08']
        | 'f' => ['\x0c']
        | 'n' => ['\n']
        | 'r' => ['\r']
        | 't' => ['\t']
        | 'v' => ['\x0b']
        | c => [c]
      delimiter :: delimiters rest
  | c :: rest => [c] :: delimiters rest

def isOpen : Text → Bool
  | [] => false
  | ['\\'] => true
  | '\\' :: _ :: rest => isOpen rest
  | _ :: rest => isOpen rest

def join (delimiters : List Text) : (used : Nat) → List Text → Text
  | _, [] => []
  | _, [line] => line
  | used, line :: rest =>
      line ++ (delimiters[used % delimiters.length]?.getD []) ++ join delimiters (used + 1) rest

/-- The next line of each text in turn; texts may share what they are read from. -/
def takeRow : List Nat → (texts : List (List Text)) → List (Option Text) × List (List Text)
  | [], texts => ([], texts)
  | index :: rest, texts =>
      match texts[index]?.getD [] with
      | [] =>
          let (row, texts) := takeRow rest texts
          (none :: row, texts)
      | line :: lines =>
          let (row, texts) := takeRow rest (texts.set index lines)
          (some line :: row, texts)

def rows (sources : List Nat) : (fuel : Nat) → List (List Text) → List (List Text)
  | 0, _ => []
  | fuel + 1, texts =>
      let (row, texts) := takeRow sources texts
      if row.all (·.isNone) then [] else row.map (·.getD []) :: rows sources fuel texts

end Paste

def paste : Program := fun arguments => do
  let forms : OptionForms :=
    { letters := "d:sz"
      words := [("delimiters", 'd', .yes), ("serial", 's', .no), ("zero-terminated", 'z', .no)]
      isOrdered := false }
  let given ← given 1 forms arguments
  let list := (given.value? 'd').getD ['\t']
  if Paste.isOpen list then
    fail 1 ("delimiter list ends with an unescaped backslash: " ++ quoteTopic list)
  let delimiters := if list.isEmpty then [[]] else Paste.delimiters list
  let ending := if given.has 'z' then '\x00' else '\n'
  if given.has 's' then
    for operand in orInput given.operands do
      match ← contents operand with
      | .ok t => print (Paste.join delimiters 0 (records ending t) ++ [ending])
      | .error error =>
          complain (about operand error)
          if isReadFailure error then print [ending]
    checkInput "-" given.operands
  else
    let operands := orInput given.operands
    let mut names : List Text := []
    let mut texts : List (List Text) := []
    let mut sources : List Nat := []
    let mut opened : Option Nat := none
    if operands.any (· != "-") && List.contains operands ['-'] && !(← surroundings).hasInput then
      fail 1 "standard input is closed"
    for operand in operands do
      match if operand == "-" then names.idxOf? operand else none with
      | some index => sources := index :: sources
      | none =>
          match ← flow operand with
          | .ok (t, hasMore) =>
              if hasMore then opened := some names.length
              sources := names.length :: sources
              names := names ++ [operand]
              texts := texts ++ [records ending (if hasMore then endedLines ending t else t)]
          | .error error =>
              if !isReadFailure error then fail 1 (about operand error)
              complain (about operand error)
              sources := names.length :: sources
              names := names ++ [operand]
              texts := texts ++ [[]]
    let size := match opened with
      | some index => (texts[index]?.getD []).length / max 1 (sources.count index)
      | none => Text.total (texts.map (·.length)) + 1
    for row in Paste.rows sources.reverse size texts do
      print (Paste.join delimiters 0 row ++ [ending])
    if opened.isSome then continueForever
    checkInput "-" operands

end Program
end Shell
end StubAssist
