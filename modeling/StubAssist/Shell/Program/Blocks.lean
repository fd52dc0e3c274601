import StubAssist.Shell.Program

/-!
# Copying in blocks

A file is read in blocks of one size and written in blocks of another one.  Operands are
names with values.
-/

namespace StubAssist
namespace Shell
namespace Program

open Activity

namespace Blocks

structure Order where
  source : Option Text
  target : Option Text
  inputSize : Nat
  outputSize : Nat
  count : Option Nat
  skip : Nat
  seek : Nat
  countsBytes : Bool
  skipsBytes : Bool
  seeksBytes : Bool
  conversions : List Text
  status : Text
deriving DecidableEq, Repr

def Order.default : Order :=
  ⟨none, none, 512, 512, none, 0, 0, false, false, false, [], []⟩

/-- A number with units, or a product of such numbers; with a `B` it counts bytes. -/
def number? (t : Text) : Option (Nat × Bool) := do
  let factors ← (Text.splitBy (· == 'x') t).mapM fun part =>
    if (part.head?.map Char.isDigit).getD false then
      match part.getLast? with
      | some 'c' => quantity? [] part.dropLast
      | some 'w' => (quantity? [] part.dropLast).map (2 * ·)
      | some 'B' =>
          if (part.dropLast.getLast?.map Char.isDigit).getD false then quantity? [] part.dropLast
          else quantity? "bkKmMGTPEZYRQ" part
      | _ => quantity? "bkKmMGTPEZYRQ" part
    else none
  let bytes := t.getLast? == some 'B' && (t.dropLast.getLast?.map Char.isDigit).getD false
  return (factors.foldl (· * ·) 1, bytes)

def conversionNames : List Text :=
  partsAt ' ' ("ascii ebcdic ibm block unblock lcase ucase sparse swab sync excl nocreat " ++
    "notrunc noerror fdatasync fsync").toList

def inputFlags : List Text :=
  partsAt ' ' ("append direct directory dsync sync fullblock nonblock noatime nocache noctty " ++
    "nofollow count_bytes skip_bytes seek_bytes").toList

def number (t : Text) (least : Nat) : Activity (Nat × Bool) := do
  match (number? t).filter fun (n, _) => least ≤ n with
  | some (n, bytes) => return (n, bytes)
  | none => fail 1 ("invalid number: " ++ quote t)

def words (what : Text) (known : List Text) (t : Text) : Activity (List Text) := do
  let found := partsAt ',' t
  match found.find? fun word => !List.contains known word with
  | some word => misuse 1 ("invalid " ++ what ++ ": " ++ quote word)
  | none => return found

def Order.add (order : Order) (operand : Text) : Activity Order := do
  let unrecognized : Activity Order := misuse 1 ("unrecognized operand " ++ quote operand)
  match Text.splitFirst '=' operand with
  | none => unrecognized
  | some (name, value) =>
      if name == "if" then return { order with source := some value }
      else if name == "of" then return { order with target := some value }
      else if name == "conv" then
        let found ← words "conversion" conversionNames value
        return { order with conversions := order.conversions ++ found }
      else if name == "status" then
        if List.contains (partsAt ' ' "none noxfer progress") value then
          return { order with status := value }
        else misuse 1 ("invalid status level: " ++ quote value)
      else if name == "iflag" then
        let flags ← words "input flag" inputFlags value
        return { order with
          countsBytes := order.countsBytes || List.contains flags "count_bytes"
          skipsBytes := order.skipsBytes || List.contains flags "skip_bytes" }
      else if name == "oflag" then
        let flags ← words "output flag" inputFlags value
        return { order with
          seeksBytes := order.seeksBytes || List.contains flags "seek_bytes" }
      else if name == "bs" then
        let (n, _) ← number value 1
        return { order with inputSize := n, outputSize := n }
      else if name == "ibs" then return { order with inputSize := (← number value 1).1 }
      else if name == "obs" then return { order with outputSize := (← number value 1).1 }
      else if name == "cbs" then
        let _ ← number value 1
        return order
      else if name == "count" then
        let (n, bytes) ← number value 0
        return { order with count := some n, countsBytes := order.countsBytes || bytes }
      else if name == "skip" || name == "iseek" then
        let (n, bytes) ← number value 0
        return { order with skip := n, skipsBytes := order.skipsBytes || bytes }
      else if name == "seek" || name == "oseek" then
        let (n, bytes) ← number value 0
        return { order with seek := n, seeksBytes := order.seeksBytes || bytes }
      else unrecognized

def swapped : Text → Text
  | a :: b :: rest => b :: a :: swapped rest
  | t => t

def Order.has (order : Order) (conversion : Text) : Bool :=
  List.contains order.conversions conversion

def Order.converted (order : Order) (t : Text) : Text :=
  let t := if order.has "swab" then swapped t else t
  if order.has "lcase" then t.map Char.toLower
  else if order.has "ucase" then t.map Char.toUpper
  else t

def tally (size length : Nat) : Nat × Nat :=
  (length / size, if length % size == 0 then 0 else 1)

def tallyLine (counts : Nat × Nat) (direction : Text) : Text :=
  Text.ofNat counts.1 ++ '+' :: Text.ofNat counts.2 ++ " records " ++ direction ++ ['\n']

structure Copied where
  read : Nat × Nat
  written : Nat × Nat
  bytes : Nat
deriving DecidableEq, Repr

def Order.report (order : Order) (copied : Copied) : Activity Unit := do
  if order.status != "none" then
    writeTo .complaints (tallyLine copied.read "in" ++ tallyLine copied.written "out")
    if order.status != "noxfer" then
      writeTo .complaints (Text.ofNat copied.bytes ++ " bytes copied, 0 s, Infinity B/s\n")

def Order.part (order : Order) (t : Text) : Text :=
  let start := if order.skipsBytes then order.skip else order.skip * order.inputSize
  let rest := t.drop start
  match order.count with
  | some count => rest.take (if order.countsBytes then count else count * order.inputSize)
  | none => rest

def Order.supply (order : Order) (t : Text) : Text :=
  let unit := if order.countsBytes then 1 else order.inputSize
  let size := order.skip * order.inputSize + (order.count.getD 0) * unit
  ((List.replicate (size / max 1 t.length + 1) t).flatten).take size

def overwritten (old : Utf8.Bytes) (place : Nat) (keeps : Bool) (new : Utf8.Bytes) : Utf8.Bytes :=
  let before := old.take place ++ List.replicate (place - old.length) 0
  before ++ new ++ if keeps then old.drop (place + new.length) else []

end Blocks

def dd : Program := fun arguments => do
  let given ← given 1 ⟨"", [], false⟩ arguments
  let mut order := Blocks.Order.default
  for operand in given.operands do order ← order.add operand
  let intake ← match order.source with
    | none => intake 0
    | some path => intakeAt path
  match intake, order.source with
  | .error .isADirectory, _ => pure ()
  | .error error, some path =>
      fail 1 ("failed to open " ++ quoteName path ++ ": " ++ reason error)
  | _, _ => pure ()
  let place := order.seek * (if order.seeksBytes then 1 else order.outputSize)
  let keeps := order.has "notrunc"
  let old : Utf8.Bytes ← match order.target with
    | none => pure []
    | some path =>
        let complaint := "failed to open " ++ quoteName path ++ ": "
        match (← files).lookup path with
        | .ok (_, .file bytes _) =>
            if order.has "excl" then fail 1 (complaint ++ reason .alreadyExists)
            pure bytes
        | .ok (_, .directory ..) => fail 1 (complaint ++ reason .isADirectory)
        | .ok _ => pure []
        | .error error =>
            if order.has "nocreat" then fail 1 (complaint ++ reason error)
            match (← files).write path [] with
            | .ok tree =>
                setFiles tree
                pure []
            | .error error => fail 1 (complaint ++ reason error)
  let topic : Text := match order.source with
    | some path => quoteName path
    | none => "'standard input'"
  match intake with
  | .error error =>
      complain ("error reading " ++ topic ++ ": " ++ reason error)
      order.report ⟨(0, 0), (0, 0), 0⟩
  | .ok intake =>
      let needed := order.skip * order.inputSize + order.count.getD 0 * order.inputSize
      if intake.hasMore && order.count.isNone then continueForever
      if intake.isPartial && intake.text.length < needed then continueForever
      let t := if intake.isEndless then order.supply intake.text else intake.text
      let start := if order.skipsBytes then order.skip else order.skip * order.inputSize
      if t.length < start then
        let shown : Text := match order.source with
          | some path => quoteTopic path
          | none => "'standard input'"
        remark (shown ++ ": cannot skip to specified offset")
      let part := order.part t
      let read := Blocks.tally order.inputSize part.length
      let whole := if order.has "sync" && read.2 == 1 then
          part ++ List.replicate (order.inputSize - part.length % order.inputSize) '\x00'
        else part
      let converted := order.converted whole
      match order.target with
      | none => print converted
      | some path =>
          match (← files).write path (Blocks.overwritten old place keeps (Octets.bytes converted)) with
          | .ok tree => setFiles tree
          | .error error => fail 1 ("error writing " ++ quoteName path ++ ": " ++ reason error)
      if order.source.isNone && intake.size.isSome then leaveUnread (t.drop (start + part.length))
      order.report ⟨read, Blocks.tally order.outputSize converted.length, converted.length⟩

/-!
# Any order
-/

def range? (t : Text) : Option (Nat × Nat) := do
  let (first, last) ← Text.splitFirst '-' t
  let low ← quantity? [] first
  let high ← quantity? [] last
  if low ≤ high + 1 then return (low, high) else none

def shuf : Program := fun arguments => do
  let given ← given 1
    { letters := "ei:n:o:rz"
      words := [("echo", 'e', .no), ("input-range", 'i', .yes), ("head-count", 'n', .yes),
        ("output", 'o', .yes), ("random-source", 'R', .yes), ("repeat", 'r', .no),
        ("zero-terminated", 'z', .no)]
      isOrdered := false } arguments
  let range ← match given.values 'i' with
    | [] => pure none
    | [t] =>
        match range? t with
        | some range => pure (some range)
        | none => fail 1 ("invalid input range: " ++ quote t)
    | _ => fail 1 "multiple -i options specified"
  let mut count : Option Nat := none
  for t in given.values 'n' do
    match quantity? [] t with
    | some n => count := some (min n (count.getD n))
    | none => fail 1 ("invalid line count: " ++ quote t)
  if given.has 'e' && range.isSome then misuse 1 "cannot combine -e and -i options"
  if !given.has 'e' then refuseExtra 1 (if range.isSome then 0 else 1) given.operands
  let ending : Char := if given.has 'z' then '\x00' else '\n'
  let all ← match range with
    | some (low, high) => pure ((List.range (high + 1 - low)).map fun i => Text.ofNat (low + i))
    | none =>
        if given.has 'e' then pure given.operands
        else
          let operand := given.operands.headD ['-']
          match ← contents operand with
          | .ok t => pure (records ending t)
          | .error error =>
              fail 1 (if isReadFailure error then "read error: " ++ reason error
                else about operand error)
  let shuffled := all.reverse
  let chosen ←
    if given.has 'r' && count != some 0 then
      if all.isEmpty then fail 1 "no lines to repeat"
      match count with
      | some n => pure (((List.replicate (n / all.length + 1) shuffled).flatten).take n)
      | none => continueForever
    else pure (match count with
      | some n => shuffled.take n
      | none => shuffled)
  let t := chosen.flatMap (· ++ [ending])
  match given.value? 'o' with
  | none => print t
  | some path =>
      match (← files).write path (Octets.bytes t) with
      | .ok tree => setFiles tree
      | .error error => fail 1 (about path error)

end Program
end Shell
end StubAssist
