import StubAssist.Shell.Program

/-!
# Files in parts

A text is written to several files, the names of which count up.
-/

namespace StubAssist
namespace Shell
namespace Program

open Activity

namespace Splitting

inductive Cut where
  | lines (count : Nat)
  | bytes (count : Nat)
  | lineBytes (count : Nat)
  | chunks (count : Nat)
  | lineChunks (count : Nat)
  | dealt (count : Nat)
deriving DecidableEq, Repr

def groups {α : Type} (size : Nat) : (fuel : Nat) → List α → List (List α)
  | 0, _ => []
  | _, [] => []
  | fuel + 1, items => items.take size :: groups size fuel (items.drop size)

/-- Puts pieces together as long as they are no longer than a size; pieces that are longer
alone are broken.  A last piece that is not ended must leave some room with others.
`held` is what is together so far. -/
def packed (ending : Char) (size : Nat) : (fuel : Nat) → (held : Text) → List Text → List Text
  | 0, held, _ => [held]
  | _, held, [] => if held.isEmpty then [] else [held]
  | fuel + 1, held, piece :: rest =>
      let length := held.length + piece.length
      let fits := length < size || (length == size && piece.getLast? == some ending)
      if held.isEmpty && size ≤ piece.length then
        let rest := if piece.length == size then rest else piece.drop size :: rest
        piece.take size :: packed ending size fuel [] rest
      else if fits then packed ending size fuel (held ++ piece) rest
      else held :: packed ending size fuel [] (piece :: rest)

def sizes (total count : Nat) : List Nat :=
  (List.range count).map fun i => total / count + if i < total % count then 1 else 0

def cutAt : List Nat → Text → List Text
  | [], _ => []
  | size :: sizes, t => t.take size :: cutAt sizes (t.drop size)

/-- Pieces by the parts in which they start; `start` is where the first piece does, and
`stop` where the part ends. -/
def chunksOf (start stop : Nat) : List Nat → List Text → List Text
  | [], pieces => if pieces.isEmpty then [] else [pieces.flatten]
  | size :: sizes, pieces =>
      let (here, start, rest) := takeBefore (stop + size) start pieces
      here.flatten :: chunksOf start (stop + size) sizes rest
where
  takeBefore (stop start : Nat) : List Text → List Text × Nat × List Text
    | [] => ([], start, [])
    | piece :: rest =>
        if start < stop then
          let (here, start, rest) := takeBefore stop (start + piece.length) rest
          (piece :: here, start, rest)
        else ([], start, piece :: rest)

def Cut.parts (cut : Cut) (ending : Char) (t : Text) : List Text :=
  let all := pieces ending t
  match cut with
  | .lines count => (groups count all.length all).map List.flatten
  | .bytes count => groups count t.length t
  | .lineBytes count => packed ending count (2 * t.length + 2) [] all
  | .chunks count => cutAt (sizes t.length count) t
  | .lineChunks count => chunksOf 0 0 (sizes t.length count) all
  | .dealt count =>
      let numbered := all.zip (List.range all.length)
      (List.range count).map fun i =>
        ((numbered.filter fun piece => piece.2 % count == i).map (·.1)).flatten

/-!
# Names
-/

structure Naming where
  front : Text
  ending : Text
  letters : Text
  start : Nat
  size : Option Nat
deriving DecidableEq, Repr

def digits (letters : Text) : (size n : Nat) → Text
  | 0, _ => []
  | size + 1, n =>
      digits letters size (n / letters.length) ++ [letters.getD (n % letters.length) '0']

/-- The name of a number among those that grow: the last letter in front means that a
longer number follows; `fuel` bounds its length. -/
def growing (letters : Text) : (fuel size n : Nat) → Text
  | 0, size, n => digits letters size n
  | fuel + 1, size, n =>
      let room := (letters.length - 1) * Nat.pow letters.length (size - 1)
      if n < room then digits letters size n
      else (letters.getLast?.toList) ++ growing letters fuel (size + 1) (n - room)

def Naming.name? (naming : Naming) (i : Nat) : Option Text :=
  let n := naming.start + i
  match naming.size with
  | some size =>
      if n < Nat.pow naming.letters.length size then
        some (naming.front ++ digits naming.letters size n ++ naming.ending)
      else none
  | none => some (naming.front ++ growing naming.letters 64 2 n ++ naming.ending)

def needed (base : Nat) : (fuel n : Nat) → Nat
  | 0, _ => 1
  | fuel + 1, n => if n < base then 1 else needed base fuel (n / base) + 1

/-!
# Options
-/

def forms : OptionForms where
  letters := "0123456789C:a:b:del:n:t:ux"
  words := [("additional-suffix", 'S', .yes), ("bytes", 'b', .yes),
    ("elide-empty-files", 'e', .no), ("filter", 'f', .yes), ("hex-suffixes", 'X', .maybe),
    ("line-bytes", 'C', .yes), ("lines", 'l', .yes), ("number", 'n', .yes),
    ("numeric-suffixes", 'D', .maybe), ("separator", 't', .yes), ("suffix-length", 'a', .yes),
    ("unbuffered", 'u', .no), ("verbose", 'v', .no)]
  isOrdered := false

def count (what t : Text) : Activity Nat := do
  match quantity? "bEgGkKmMPQRtTYZ0" t with
  | some n => if 0 < n then return n else fail 1 ("invalid number of " ++ what ++ ": " ++ quote t)
  | none => fail 1 ("invalid number of " ++ what ++ ": " ++ quote t)

def chunks (t : Text) : Activity (Cut × Option Nat) := do
  let (make, rest) : (Nat → Cut) × Text := match t with
    | 'l' :: '/' :: rest => (Cut.lineChunks, rest)
    | 'r' :: '/' :: rest => (Cut.dealt, rest)
    | _ => (Cut.chunks, t)
  match Text.splitFirst '/' rest with
  | none => return (make (← count "chunks" rest), none)
  | some (chosen, total) =>
      let total ← count "chunks" total
      match quantity? [] chosen with
      | some n =>
          if 0 < n && n ≤ total then return (make total, some n)
          else fail 1 ("invalid chunk number: " ++ quote chosen)
      | none => fail 1 ("invalid chunk number: " ++ quote chosen)

def cut (given : Given) : Activity (Cut × Option Nat) := do
  let digits := (given.options.filter (·.key.isDigit)).map (·.key)
  let ways := given.options.filter fun option => List.contains "bCln".toList option.key
  if 1 < ways.length + (if digits.isEmpty then 0 else 1) then
    misuse 1 "cannot split in more than one way"
  match ways with
  | ⟨'b', some t⟩ :: _ => return (.bytes (← count "bytes" t), none)
  | ⟨'C', some t⟩ :: _ => return (.lineBytes (← count "bytes" t), none)
  | ⟨'l', some t⟩ :: _ => return (.lines (← count "lines" t), none)
  | ⟨'n', some t⟩ :: _ => chunks t
  | _ =>
      if digits.isEmpty then return (.lines 1000, none)
      else return (.lines (← count "lines" digits), none)

def separator (given : Given) : Activity Char := do
  match given.value? 't' with
  | none => return '\n'
  | some [] => fail 1 "empty record separator"
  | some [c] => return c
  | some ['\\', '0'] => return '\x00'
  | some t => fail 1 ("multi-character separator " ++ quote t)

def naming (given : Given) (cut : Cut) : Activity Naming := do
  let ending := (given.value? 'S').getD []
  if List.contains ending '/' then
    misuse 1 ("invalid suffix " ++ quote ending ++ ", contains directory separator")
  let size ← match given.value? 'a' with
    | none => pure 0
    | some t =>
        match quantity? [] t with
        | some n => pure n
        | none => fail 1 ("invalid suffix length: " ++ quote t)
  let key := (given.last? "dDxX").map (·.key)
  let decimal := "0123456789".toList
  let letters := match key with
    | some 'd' | some 'D' => decimal
    | some _ => decimal ++ "abcdef".toList
    | none => "abcdefghijklmnopqrstuvwxyz".toList
  let start := (given.last? "DX").bind (·.value)
  let first ← match start with
    | none => pure 0
    | some t =>
        let isHex := key == some 'X'
        let found := if t.isEmpty then none
          else if isHex then t.foldlM (fun n c => (letters.idxOf? c).map (16 * n + ·)) 0
          else Text.digitsFrom? 0 t
        match found with
        | some n => pure n
        | none =>
            let kind : Text := if isHex then "hexadecimal" else "numerical"
            misuse 1 (quote t ++ ": invalid start value for " ++ kind ++ " suffix")
  let total := match cut with
    | .chunks count | .lineChunks count | .dealt count => some count
    | _ => none
  let least := (total.map fun total => needed letters.length 64 (first + total - 1)).getD 0
  if 0 < size && size < least then
    fail 1 ("the suffix length needs to be at least " ++ Text.ofNat least)
  let fixed := if 0 < size then some size
    else if start.isSome || total.isSome then some (max 2 least)
    else none
  return ⟨(given.operands.drop 1).headD ['x'], ending, letters, first, fixed⟩

def writeParts (naming : Naming) (isVerbose : Bool) : (i : Nat) → List Text → Activity Unit
  | _, [] => return ()
  | i, part :: rest => do
      match naming.name? i with
      | none => fail 1 "output file suffixes exhausted"
      | some path =>
          match (← files).write path (Octets.bytes part) with
          | .ok tree =>
              setFiles tree
              if isVerbose then printLine ("creating file " ++ quoteName path)
              writeParts naming isVerbose (i + 1) rest
          | .error error => fail 1 (quoteTopic path ++ ": " ++ reason error)

end Splitting

def split : Program := fun arguments => do
  let given ← given 1 Splitting.forms arguments
  let (cut, chosen) ← Splitting.cut given
  let separator ← Splitting.separator given
  let naming ← Splitting.naming given cut
  refuseExtra 1 2 given.operands
  let operand := given.operands.headD ['-']
  match ← contents operand with
  | .error error =>
      fail 1 (if isReadFailure error then about operand error else unopened operand error)
  | .ok t =>
      let parts := cut.parts separator t
      match chosen with
      | some n => print ((parts.drop (n - 1)).headD [])
      | none =>
          let kept := if given.has 'e' then parts.filter (!·.isEmpty) else parts
          Splitting.writeParts naming (given.has 'v') 0 kept

end Program
end Shell
end StubAssist
